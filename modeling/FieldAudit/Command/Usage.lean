import FieldAudit.Command.Arguments
import FieldAudit.Report.Json

/-!
# Usage

What is printed when a command line asks for help or cannot be read.
-/

namespace FieldAudit.Command

/-- How to call the program. -/
def usage : List String := [
  "Find fields silently dropped by converter functions",
  "",
  "Usage: lostfield [OPTIONS] <COMMAND>",
  "",
  "Commands:",
  "  check  Check converters for unmapped fields [aliases: lint]",
  "  init   Write a commented default configuration file",
  "  help   Print this message",
  "",
  "Options:",
  "  -v, --verbose  Log progress",
  "  -h, --help     Print help",
  "  -V, --version  Print version",
  "",
  "Usage: lostfield check [OPTIONS] <PATH>",
  "",
  "Options:",
  "  -c, --config <CONFIG>              Path to config YAML file (default: auto-discover)",
  "  -f, --format <FORMAT>              Output format: default, pretty, or json",
  "      --show-suppressed              Show suppressed findings in pretty output",
  "      --no-member-functions          Only check plain functions, not methods",
  "      --no-getter-fallback           Do not accept GetField() calls as reading Field",
  "      --allow-aggregating            Allow slice-to-struct converters",
  "      --exclude-field <PATTERN>      Field name pattern to ignore (repeatable)",
  "      --exclude-converter <PATTERN>  Function name pattern never treated as a converter (repeatable)",
  "      --exclude-file <PATTERN>       File pattern to skip (repeatable)",
  "      --min-similarity <RATIO>       Minimum name similarity, 0.0 - 1.0",
  "      --ignore-tag <TAG>             Struct tag (entry or key) marking fields to ignore (repeatable)",
  "      --include-generated            Check generated files too",
  "      --ignore-deprecated            Skip fields marked Deprecated",
  "      --include-private              Check unexported fields too",
  "      --non-serializable <MODE>      Func/chan field handling: ignore, adaptive, or strict",
  "",
  "Usage: lostfield init [OPTIONS]",
  "",
  "Options:",
  "  -o, --output <OUTPUT>  Output file path [default: lostfield.yaml]",
  "      --force            Overwrite an existing file"]

/-- What a command line is answered with instead of a run. -/
def UsageError.lines : UsageError → List String
  | help | helpOnMissing => usage
  | version => ["lostfield " ++ Report.version]
  | missingSubcommand => ["error: a command is missing"]
  | invalidSubcommand => ["error: unrecognized command"]
  | unknownArgument => ["error: unexpected argument"]
  | missingRequired => ["error: a path is missing"]
  | invalidValue => ["error: a value is missing"]
  | badValue => ["error: a value is no number"]
  | unneededValue => ["error: a value is given to an option that takes none"]
  | conflict => ["error: an option is given twice"]

end FieldAudit.Command
