/-! What is shown when the arguments make no sense or help is asked for. -/
namespace Trackplan.CommandLine

def program : String := "railgram"

def usage : String :=
  "Usage:\n" ++
  "  " ++ program ++ " [--section <id>] [--filter <query> [--regex]] [--json | --peg | --list]\n" ++
  "  " ++ program ++ " --rule <name> [--json | --peg]\n" ++
  "  " ++ program ++ " --check\n\n" ++
  "Render options: --max-label-width <n>, --no-comments.\n\n" ++
  "Without --rule, every section is printed in display order; --filter keeps rules whose name\n" ++
  "contains the query (case-insensitive), or matches it as a regex with --regex.\n" ++
  "--check reports duplicate definitions, dangling references and unsectioned rules.\n\n" ++
  "Set RUST_LOG (default `warn`) to control diagnostics on stderr.\n"

end Trackplan.CommandLine
