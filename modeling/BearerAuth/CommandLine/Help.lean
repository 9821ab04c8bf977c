/-! # Help -/

namespace BearerAuth.CommandLine

/-- The version of the tool. -/
def version : String := "session-kernel 0.1.0\n"

/-- The variable that may name the configuration file. -/
def configVariable : String := "SESSION_KERNEL_CONFIG"

/-- How the tool as a whole is used. The value of the variable that may name a configuration file is
shown. -/
def toolHelp (preset : String) : String :=
  "Bearer credential issuance, validation and revocation with per-key rate limiting\n\n" ++
  "Usage: session-kernel [OPTIONS] <COMMAND>\n\n" ++
  "Commands:\n" ++
  "  hash-password  Print a PHC-format hash for provisioning a password credential\n" ++
  "  issue          Mint a token pair with the configured secret and print it as JSON\n" ++
  "  inspect        Validate a token and print its claims\n" ++
  "  check-config   Load, validate and summarise configuration\n" ++
  "  help           Print this message or the help of the given subcommand(s)\n\n" ++
  "Options:\n" ++
  "  -c, --config <CONFIG>  Path to the configuration file [env: " ++
    configVariable ++ "=" ++ preset ++ "]\n" ++
  "  -h, --help             Print help\n" ++
  "  -V, --version          Print version\n"

/-- How a command is used. -/
def commandHelp : String → String
  | "hash-password" =>
    "Print a PHC-format hash for provisioning a password credential\n\n" ++
    "Usage: session-kernel hash-password <PLAINTEXT>\n\n" ++
    "Arguments:\n" ++
    "  <PLAINTEXT>  Plaintext password (at least 8 characters)\n\n" ++
    "Options:\n" ++
    "  -h, --help  Print help\n"
  | "issue" =>
    "Mint a token pair with the configured secret and print it as JSON\n\n" ++
    "Usage: session-kernel issue [OPTIONS] --user <USER>\n\n" ++
    "Options:\n" ++
    "      --user <USER>      User ID to issue for\n" ++
    "      --client <CLIENT>  Client type (WEB, IOS, ANDROID, ...) [default: WEB]\n" ++
    "  -h, --help             Print help\n"
  | "inspect" =>
    "Validate a token and print its claims\n\n" ++
    "Usage: session-kernel inspect <TOKEN>\n\n" ++
    "Arguments:\n" ++
    "  <TOKEN>  Raw signed token\n\n" ++
    "Options:\n" ++
    "  -h, --help  Print help\n"
  | "check-config" =>
    "Load, validate and summarise configuration\n\n" ++
    "Usage: session-kernel check-config\n\n" ++
    "Options:\n" ++
    "  -h, --help  Print help\n"
  | _ =>
    "Print this message or the help of the given subcommand(s)\n\n" ++
    "Usage: session-kernel help [COMMAND]...\n\n" ++
    "Arguments:\n" ++
    "  [COMMAND]...  Print help for the subcommand(s)\n"

end BearerAuth.CommandLine
