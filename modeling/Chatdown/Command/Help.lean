/-!
# What the command says about itself
-/

namespace Chatdown.Command

/-- The name of the command. -/
def commandName : String := "markdownconverter"

/-- The number of this version. -/
def versionNumber : String := "0.1.0"

/-- How the command is used. -/
def helpText : String :=
  "\n".intercalate
    ["Convert markdown into other markup formats",
     "",
     "Usage: markdownconverter [format] [input] [output]",
     "",
     "Arguments:",
     "  [ARGS]...  Format, input and output, in that order",
     "",
     "Options:",
     "  -f, --format <FORMAT>  Output format",
     "  -i, --input <INPUT>    Input file, markdown text, or - for stdin",
     "  -o, --output <FILE>    Output file (defaults to stdout)",
     "      --config <PATH>    Path to a markdownconverter.toml configuration file",
     "      --tree             Print the document tree of the input as JSON instead of converting",
     "  -h, --help             Print help",
     "  -V, --version          Print version",
     "",
     "Formats:",
     "  slack   Slack chat-markup (mrkdwn)",
     "  http    HTML fragment",
     "",
     "Example:",
     "  markdownconverter slack \"[evilmonkeyinc](https://github.com/evilmonkeyinc)\"",
     "  <https://github.com/evilmonkeyinc|evilmonkeyinc>",
     ""]

/-- The line that an option asks for. -/
def versionText : String :=
  commandName ++ " " ++ versionNumber ++ "\n"

/-- The line that an argument asks for, with the platform. -/
def platformText (platform : String) : String :=
  "version " ++ versionNumber ++ " " ++ platform ++ "\n"

end Chatdown.Command
