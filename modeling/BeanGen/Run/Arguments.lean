/-!
# Command lines

A command line is a list of words. Options come in a long form and in a form of one letter; letters
run together, and a value may be attached or be the next word. An option is given at most once. The
first word that is no option names the command, and what follows belongs to it.
-/

namespace BeanGen.Run

/-- An option: its letter, its name, and whether it takes a value, which may be empty. -/
structure OptionForm where
  letter : Char
  name : String
  takesValue : Bool
  allowsEmpty : Bool
  deriving DecidableEq, Repr, Inhabited

namespace OptionForm

def flag (letter : Char) (name : String) : OptionForm :=
  ⟨letter, name, false, false⟩

def path (letter : Char) (name : String) : OptionForm :=
  ⟨letter, name, true, false⟩

def text (letter : Char) (name : String) : OptionForm :=
  ⟨letter, name, true, true⟩

end OptionForm

def verboseOption : OptionForm :=
  .flag 'v' "verbose"

def helpOption : OptionForm :=
  .flag 'h' "help"

def versionOption : OptionForm :=
  .flag 'V' "version"

/-- Why reading the words of a command line ends early. -/
inductive Halt where
  | misuse
  | help
  | version
  deriving DecidableEq, Repr, Inhabited

abbrev Given :=
  List (String × String)

/-- Takes up an option with its value; a flag has the empty value. -/
def accept (o : OptionForm) (value : String) (given : Given) : Except Halt Given :=
  if o = helpOption then .error .help
  else if o = versionOption then .error .version
  else if given.any (·.1 == o.name) then .error .misuse
  else if o.takesValue && !o.allowsEmpty && value.isEmpty then .error .misuse
  else .ok (given ++ [(o.name, value)])

/-- What the letters of a word give: the options so far, and an option whose value is the next word.
-/
abbrev Cluster :=
  Given × Option OptionForm

def readLetters (options : List OptionForm) : Given → List Char → Except Halt Cluster
  | given, [] => .ok (given, none)
  | given, c :: rest =>
    match options.find? (·.letter == c) with
    | none => .error .misuse
    | some o =>
      if !o.takesValue then do
        let given ← accept o "" given
        readLetters options given rest
      else
        match rest with
        | [] => .ok (given, some o)
        | '=' :: value => (accept o (String.ofList value) given).map (·, none)
        | value => (accept o (String.ofList value) given).map (·, none)

/-- Reads the name after two hyphens, and the value after a sign of equality. -/
def readName (options : List OptionForm) (given : Given) (word : List Char) : Except Halt Cluster :=
  let name := word.takeWhile (· != '=')
  let value? := match word.dropWhile (· != '=') with
    | [] => none
    | _ :: value => some (String.ofList value)
  match options.find? (·.name == String.ofList name), value? with
  | none, _ => .error .misuse
  | some o, none =>
    if o.takesValue then .ok (given, some o) else (accept o "" given).map (·, none)
  | some o, some value =>
    if o.takesValue then (accept o value given).map (·, none) else .error .misuse

/-- Whether a word is no option: a hyphen alone is none. -/
def isPlain (word : List Char) : Bool :=
  match word with
  | '-' :: _ :: _ => false
  | _ => true

/-- Reads options up to the first word that is none, and gives the words from there on. Two hyphens
alone end the options too. -/
def readOptions (options : List OptionForm) :
    Given → List String → Except Halt (Given × List String)
  | given, [] => .ok (given, [])
  | given, word :: rest => do
    if isPlain word.toList || word = "--" then return (given, word :: rest)
    let (given, pending) ← match word.toList with
      | '-' :: '-' :: name => readName options given name
      | letters => readLetters options given (letters.drop 1)
    match pending with
    | none => readOptions options given rest
    | some o =>
      match rest with
      | [] => throw .misuse
      | value :: rest =>
        if isPlain value.toList then
          let given ← accept o value given
          readOptions options given rest
        else throw .misuse

/-! ## Commands -/

/-- What the program is asked to do. -/
inductive Command where
  | generate (model output : String) (settings strategy : Option String) (force : Bool)
  | strategies (settings : Option String)
  | check (settings : String)
  deriving DecidableEq, Repr, Inhabited

inductive CommandName where
  | generate
  | strategies
  | check
  deriving DecidableEq, Repr, Inhabited

def CommandName.text : CommandName → String
  | generate => "generate"
  | strategies => "strategies"
  | check => "check"

def CommandName.ofText? (word : String) : Option CommandName :=
  [generate, strategies, check].find? (·.text == word)

def CommandName.options : CommandName → List OptionForm
  | generate =>
    [.path 'm' "model", .path 'o' "output", .path 'c' "config", .text 's' "strategy",
      .flag 'f' "force", verboseOption, helpOption]
  | strategies => [.path 'c' "config", verboseOption, helpOption]
  | check => [.path 'c' "config", verboseOption, helpOption]

inductive Request where
  | perform (command : Command) (verbose : Bool)
  | showHelp (topic : Option CommandName)
  | showVersion
  | refuse
  deriving DecidableEq, Repr, Inhabited

def defaultSettingsPath : String :=
  "schemabind.toml"

/-- The command of some options; `none` if one that it needs is missing. -/
def CommandName.assemble (name : CommandName) (given : Given) : Option Command :=
  match name with
  | generate => do
    let model ← given.lookup "model"
    let output ← given.lookup "output"
    return .generate model output (given.lookup "config") (given.lookup "strategy")
      (given.lookup "force").isSome
  | strategies => some (.strategies (given.lookup "config"))
  | check => some (.check ((given.lookup "config").getD defaultSettingsPath))

def Halt.request (topic : Option CommandName) : Halt → Request
  | misuse => .refuse
  | help => .showHelp topic
  | version => .showVersion

def asksVerbose (given : Given) : Bool :=
  given.any (·.1 == verboseOption.name)

def readCommand (name : CommandName) (verbose : Bool) (words : List String) : Request :=
  match readOptions name.options [] words with
  | .error halt => halt.request (some name)
  | .ok (given, rest) =>
    if rest = [] || rest = ["--"] then
      match name.assemble given with
      | some command => .perform command (verbose || asksVerbose given)
      | none => .refuse
    else .refuse

def readTopic : List String → Request
  | [] => .showHelp none
  | ["help"] => .showHelp none
  | [word] =>
    match CommandName.ofText? word with
    | some name => .showHelp (some name)
    | none => .refuse
  | _ => .refuse

def readArguments (words : List String) : Request :=
  match readOptions [verboseOption, helpOption, versionOption] [] words with
  | .error halt => halt.request none
  | .ok (_, []) => .refuse
  | .ok (given, word :: rest) =>
    match CommandName.ofText? word with
    | some name => readCommand name (asksVerbose given) rest
    | none => if word = "help" then readTopic rest else .refuse

end BeanGen.Run
