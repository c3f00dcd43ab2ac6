import FormLetter.CommandLine.Flags

/-!
The texts that the command line prints about itself.
-/
namespace FormLetter.CommandLine

def programName : String := "csvplate"

def versionText : String := "csvplate 0.3.0\n"

/-- The usage line without options in particular. -/
def usageLine (program : String) : String :=
  s!"Usage: {program} [OPTIONS]"

/-- The usage line that names the options already given. -/
def usageWith (program : String) (given : List Opt) : String :=
  if given.isEmpty then usageLine program
  else s!"Usage: {program}" ++ String.join (given.map fun o => " " ++ o.display)

/-- The usage line that names an option beside others: the choice of all that set something, and in
front of it an option that is not among them. -/
def usageBeside (program : String) (o : Opt) : String :=
  let choice := String.intercalate "|" (Opt.settings.map Opt.display)
  let own := if Opt.settings.contains o then "" else " " ++ o.display
  s!"Usage: {program}" ++ own ++ " <" ++ choice ++ ">"

def helpHint : String := "For more information, try '--help'.\n"

def helpText (program : String) : String :=
  String.intercalate "\n" [
    "Generate one or many text files from a CSV file and a template",
    "",
    usageLine program,
    "",
    "Options:",
    "  -i, --csv <CSV>            CSV source: file path, '-' for stdin, or inline CSV text",
    "  -t, --template <TEMPLATE>  Template source: file path, '-' for stdin, or inline template text",
    "  -o, --out <OUT>            Output file, or a template rendering one file name per row",
    "  -c, --counter <NAME>       Name of the field holding the 1-based row number [default: _index_]",
    "  -n, --noheader             Treat the first row as data; fields are named C1, C2, ...",
    "  -f, --force                Overwrite existing output files",
    "      --csv-sep <CHAR>       CSV field separator [default: ,]",
    "  -h, --help                 Print help",
    "  -V, --version              Print version",
    "",
    "Mode of operation:",
    "  If --out contains a template expression (\x7b\x7b ... \x7d\x7d or \x7b% ... %\x7d), one",
    "  file is written per CSV row: --out is rendered with the row to get the",
    "  file name, then the template is rendered with the row as content.",
    "  Each column is available by name (\x7b\x7b Name \x7d\x7d) and the whole row as",
    "  \x7b\x7b row \x7d\x7d (use row[\"Some Column\"] for names with spaces).",
    "",
    "  Otherwise a single output is written: the template is rendered once",
    "  with \x7b\x7b rows \x7d\x7d (all records) and \x7b\x7b headers \x7d\x7d (the column names).",
    "",
    "  --csv and --template accept a file path, '-' for stdin, or the content",
    "  itself when no such file exists. Only one of them can read stdin.",
    "  An empty --out or '-' writes to stdout.",
    "",
    "Examples:",
    "  csvplate -i people.csv -t letter.tmpl -o 'letters/\x7b\x7b Name | slugify \x7d\x7d.txt'",
    "  csvplate -i people.csv -t '\x7b% for r in rows %\x7d\x7b\x7b r.Name \x7d\x7d\\n\x7b% endfor %\x7d'",
    "  cat people.csv | csvplate -t report.tmpl -o report.txt",
    ""]

end FormLetter.CommandLine
