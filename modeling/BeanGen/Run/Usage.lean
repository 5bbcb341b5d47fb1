import BeanGen.Run.Arguments

/-!
# Usage

What the program says about its own command line.
-/

namespace BeanGen.Run

def usageText : Option CommandName → String
  | none =>
    "XML binding source generator\n\nUsage: schemabind [OPTIONS] <COMMAND>\n\nCommands:\n" ++
    "  generate    Generate Java sources from a JSON type model\n" ++
    "  strategies  List the conflict strategies registered by a configuration\n" ++
    "  check       Validate a schemabind.toml configuration\n" ++
    "  help        Print this message or the help of the given subcommand(s)\n\nOptions:\n" ++
    "  -v, --verbose  Log at debug level unless RUST_LOG says otherwise\n" ++
    "  -h, --help     Print help\n" ++
    "  -V, --version  Print version\n"
  | some .generate =>
    "Generate Java sources from a JSON type model\n\n" ++
    "Usage: schemabind generate [OPTIONS] --model <MODEL> --output <OUTPUT>\n\nOptions:\n" ++
    "  -m, --model <MODEL>        Path to the type model (one type or an array of types)\n" ++
    "  -v, --verbose              Log at debug level unless RUST_LOG says otherwise\n" ++
    "  -o, --output <OUTPUT>      Output directory for generated sources\n" ++
    "  -c, --config <CONFIG>      Path to schemabind.toml (default: built-in defaults)\n" ++
    "  -s, --strategy <STRATEGY>  Conflict strategy to use instead of the configured one\n" ++
    "  -f, --force                Overwrite existing files without consulting the strategy\n" ++
    "  -h, --help                 Print help\n"
  | some .strategies =>
    "List the conflict strategies registered by a configuration\n\n" ++
    "Usage: schemabind strategies [OPTIONS]\n\nOptions:\n" ++
    "  -c, --config <CONFIG>  Path to schemabind.toml (default: built-in defaults)\n" ++
    "  -v, --verbose          Log at debug level unless RUST_LOG says otherwise\n" ++
    "  -h, --help             Print help\n"
  | some .check =>
    "Validate a schemabind.toml configuration\n\n" ++
    "Usage: schemabind check [OPTIONS]\n\nOptions:\n" ++
    "  -c, --config <CONFIG>  Path to schemabind.toml [default: schemabind.toml]\n" ++
    "  -v, --verbose          Log at debug level unless RUST_LOG says otherwise\n" ++
    "  -h, --help             Print help\n"

def usageComplaint : String :=
  "error: the command line is not understood\n\nFor more information, try '--help'.\n"

end BeanGen.Run
