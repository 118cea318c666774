/-!
# Help texts

The texts that `-h`, `--help` and `--version` print.
-/

namespace RunSweep.Usage

/-- The name of the program. -/
def program : String := "daqsweep"

/-- What `--version` prints. -/
def version : String := program ++ " 0.1.0\n"

/-- The head of both help texts. -/
def head : List String :=
  ["Repeatedly run the acquisition binary and archive or delete its output files by size.",
    "",
    "Usage: " ++ program ++ " [OPTIONS]",
    "",
    "Options:"]

/-- One option in the short text: how it is written, and its summary. -/
def summaries : List (String × String) :=
  [("      --config <PATH>", "Path to the config file (TOML)"),
    ("      --binary <PATH>", "Path to the acquisition binary"),
    ("      --threshold <MB>",
      "Threshold in whole MB, passed to the binary and used by the sweep"),
    ("      --sweep-threshold <MB>", "Separate sweep threshold in MB (defaults to `--threshold`)"),
    ("      --dir <DIR>", "Working directory the binary writes into"),
    ("      --store <DIR>", "Archive directory for files above the threshold"),
    ("      --name <NAME>", "Run name tag passed to the binary"),
    ("  -a, --allowmod", "Allow the acquisition binary to run with local modifications"),
    ("      --no-coincidence", "Do not request coincidence triggering"),
    ("  -t, --once",
      "Perform exactly one run-and-sweep iteration, then exit [alias: --test]"),
    ("      --max-iterations <N>", "Stop after this many iterations"),
    ("      --on-launch-failure <POLICY>",
      "What to do when the acquisition binary cannot be launched (`abort` or `continue`)"),
    ("      --log-level <LEVEL>",
      "Logging level (error, warn, info, debug, trace) "
        ++ "[possible values: error, warn, info, debug, trace]"),
    ("      --dry-run", "Resolve and print the configuration and command line, run nothing"),
    ("  -h, --help", "Print help (see more with '--help')"),
    ("  -V, --version", "Print version")]

/-- The column at which summaries start in the short text. -/
def summaryColumn : Nat := 36

/-- A line of the short text. -/
def summaryLine (entry : String × String) : String :=
  entry.1 ++ String.ofList (List.replicate (summaryColumn - entry.1.length) ' ') ++ entry.2

/-- One option in the long text: how it is written, and the paragraphs on it. -/
def articles : List (String × List String) :=
  [("      --config <PATH>",
      ["Path to the config file (TOML).",
        "If omitted, `Daqsweep.toml` is used when it exists; otherwise the built-in defaults apply."]),
    ("      --binary <PATH>", ["Path to the acquisition binary"]),
    ("      --threshold <MB>",
      ["Threshold in whole MB, passed to the binary and used by the sweep"]),
    ("      --sweep-threshold <MB>",
      ["Separate sweep threshold in MB (defaults to `--threshold`)"]),
    ("      --dir <DIR>", ["Working directory the binary writes into"]),
    ("      --store <DIR>", ["Archive directory for files above the threshold"]),
    ("      --name <NAME>", ["Run name tag passed to the binary"]),
    ("  -a, --allowmod", ["Allow the acquisition binary to run with local modifications"]),
    ("      --no-coincidence", ["Do not request coincidence triggering"]),
    ("  -t, --once",
      ["Perform exactly one run-and-sweep iteration, then exit", "[alias: --test]"]),
    ("      --max-iterations <N>", ["Stop after this many iterations"]),
    ("      --on-launch-failure <POLICY>",
      ["What to do when the acquisition binary cannot be launched (`abort` or `continue`)"]),
    ("      --log-level <LEVEL>",
      ["Logging level (error, warn, info, debug, trace).",
        "If omitted, `DAQSWEEP_LOG` or a default level will be used.",
        "[possible values: error, warn, info, debug, trace]"]),
    ("      --dry-run", ["Resolve and print the configuration and command line, run nothing"]),
    ("  -h, --help", ["Print help (see a summary with '-h')"]),
    ("  -V, --version", ["Print version"])]

/-- The indentation of a paragraph in the long text; it also stands alone between two paragraphs. -/
def indent : String := "          "

/-- The lines on one option in the long text. -/
def articleLines (entry : String × List String) : List String :=
  entry.1 :: (entry.2.map (indent ++ ·)).intersperse indent

/-- Lines as text, each ended by a newline. -/
def ofLines (lines : List String) : String :=
  String.join (lines.map (· ++ "\n"))

/-- The text of `-h`. -/
def short : String :=
  ofLines (head ++ summaries.map summaryLine)

/-- The text of `--help`: an empty line between two options. -/
def long : String :=
  ofLines (head ++ [""].intercalate (articles.map articleLines))

end RunSweep.Usage
