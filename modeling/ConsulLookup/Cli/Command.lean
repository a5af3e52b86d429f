/-! Commands of a command line, their options and their help pages. -/

namespace ConsulLookup.Cli

/-- An option written `--name`: a flag, or one that takes a value shown in help as `metavar`. -/
structure OptionSpec where
  name : String
  metavar : Option String
  help : String

/-- A paragraph of a help text: prose, wrapped to the page, or lines kept as written. -/
inductive Paragraph where
  | prose (text : String)
  | verbatim (lines : List String)

/-- A command: its name, the metavariable of its argument if it takes one, its options and its
help text. -/
structure CommandSpec where
  name : String
  argument : Option String
  options : List OptionSpec
  help : List Paragraph

/-- A program: its name, its own options, its commands and its help text. -/
structure GroupSpec where
  name : String
  options : List OptionSpec
  commands : List CommandSpec
  help : List Paragraph

/-- The option every command and group has, which shows its help page. -/
def helpOption : OptionSpec :=
  ⟨"--help", none, "Show this message and exit."⟩

/-- The options of a command, the help option last. -/
def CommandSpec.allOptions (c : CommandSpec) : List OptionSpec :=
  c.options ++ [helpOption]

/-- The options of a group, the help option last. -/
def GroupSpec.allOptions (g : GroupSpec) : List OptionSpec :=
  g.options ++ [helpOption]

/-- The command of a name. -/
def GroupSpec.find? (g : GroupSpec) (name : String) : Option CommandSpec :=
  g.commands.find? (·.name == name)

/-- The width of a help page. -/
def pageWidth : Nat := 78

/-- The runs of characters between blanks, from the last back to the first. -/
def wordRuns (cs : List Char) : List (List Char) :=
  cs.foldl (fun runs c =>
    if c = ' ' then (match runs with | [] :: _ => runs | _ => [] :: runs)
    else match runs with
      | run :: rest => (run ++ [c]) :: rest
      | [] => [[c]]) [[]]

/-- The words of a text, split at blanks. -/
def words (text : String) : List String :=
  ((wordRuns text.toList).filter (!·.isEmpty)).reverse.map String.ofList

/-- Words filled greedily into lines of at most `width` characters; a word longer than a line
stands on a line of its own. -/
def fillLines (width : Nat) : List String → List String
  | [] => []
  | w :: rest =>
    let (line, lines) := rest.foldl (fun (line, lines) word =>
      if line.length + 1 + word.length ≤ width then (line ++ " " ++ word, lines)
      else (word, lines ++ [line])) (w, [])
    lines ++ [line]

/-- The blanks of an indentation. -/
def blanks (n : Nat) : String :=
  String.ofList (List.replicate n ' ')

/-- A paragraph as lines indented by `indent`, prose filled to the page width. -/
def Paragraph.lines (indent : Nat) : Paragraph → List String
  | .prose text => (fillLines (pageWidth - indent) (words text)).map (blanks indent ++ ·)
  | .verbatim lines => lines.map (blanks indent ++ ·)

/-- A help text: its paragraphs indented by two, a blank line between two of them. -/
def helpText (ps : List Paragraph) : String :=
  "\n\n".intercalate (ps.map fun p => "\n".intercalate (p.lines 2))

/-- A two-column list indented by two: the first column is as wide as its widest entry, at most
30, plus two blanks; an entry too wide for it puts its description on the next line. -/
def definitionList (rows : List (String × String)) : List String :=
  let firstColumn := min ((rows.map (·.1.length)).foldl max 0) 30 + 2
  let textWidth := max (pageWidth - firstColumn - 2) 10
  rows.flatMap fun (term, description) =>
    let head := blanks 2 ++ term
    match fillLines textWidth (words description) with
    | [] => [head]
    | first :: more =>
      let continued := more.map (blanks (firstColumn + 2) ++ ·)
      if term.length ≤ firstColumn - 2 then
        (head ++ blanks (firstColumn - term.length) ++ first) :: continued
      else head :: (blanks (firstColumn + 2) ++ first) :: continued

/-- An option as the first column of the list: its name, and its metavariable if it takes a
value. -/
def OptionSpec.term (o : OptionSpec) : String :=
  match o.metavar with
  | some m => o.name ++ " " ++ m
  | none => o.name

/-- How a summary is cut to a limit: kept whole, kept to the end of a sentence, or cut after
a word, with the running length at the cut. -/
inductive Cut where
  | whole
  | sentence (count : Nat)
  | after (index total : Nat)

/-- Where words are cut to `limit` characters: at the first word past the limit, after the first
sentence that ends within it, or at a word that meets it exactly with more to come. -/
def cutWords (limit : Nat) : List String → Nat → Nat → Cut
  | [], _, _ => .whole
  | w :: rest, i, total =>
    let total := total + w.length + (if i > 0 then 1 else 0)
    if total > limit then .after i total
    else if w.toList.getLast? == some '.' then .sentence (i + 1)
    else if total = limit && !rest.isEmpty then .after i total
    else cutWords limit rest (i + 1) total

/-- How many words stay when `...` follows them: words are given back from the cut until the
text with the ellipsis fits. -/
def keptWords (ws : Array String) (limit : Nat) : Nat → Nat → Nat
  | 0, _ => 0
  | i + 1, total =>
    let total := total - ((ws[i + 1]?.map String.length).getD 0 + 1)
    if total ≤ limit then i + 1 else keptWords ws limit i total

/-- The summary of a help text for a list of commands: its first paragraph, to the end of its
first sentence, or cut with `...` to at most `limit` characters. -/
def shortHelp (limit : Nat) (ps : List Paragraph) : String :=
  let text := match ps with
    | .prose t :: _ => t
    | .verbatim ls :: _ => " ".intercalate ls
    | [] => ""
  let ws := words text
  match cutWords limit ws 0 0 with
  | .whole => " ".intercalate ws
  | .sentence n => " ".intercalate (ws.take n)
  | .after i total =>
    " ".intercalate (ws.take (keptWords ws.toArray limit i (total + 3))) ++ "..."

/-- The usage line of a command path with the pieces after it. -/
def usageLine (path pieces : String) : String :=
  "Usage: " ++ path ++ " " ++ pieces

/-- The usage pieces of a command: its options, then its argument. -/
def CommandSpec.pieces (c : CommandSpec) : String :=
  match c.argument with
  | some m => "[OPTIONS] " ++ m
  | none => "[OPTIONS]"

/-- The usage pieces of a group: its options, then a command and its arguments. -/
def groupPieces : String := "[OPTIONS] COMMAND [ARGS]..."

/-- A section of a help page: a heading and its list. -/
def helpSection (heading : String) (rows : List (String × String)) : String :=
  heading ++ ":\n" ++ "\n".intercalate (definitionList rows)

/-- The help page of a command at a path. -/
def CommandSpec.helpPage (c : CommandSpec) (path : String) : String :=
  let text := if c.help.isEmpty then [] else [helpText c.help]
  "\n\n".intercalate ([usageLine path c.pieces] ++ text ++
    [helpSection "Options" (c.allOptions.map fun o => (o.term, o.help))])

/-- The help page of a group: its commands in the order of their names, each with its summary. -/
def GroupSpec.helpPage (g : GroupSpec) : String :=
  let text := if g.help.isEmpty then [] else [helpText g.help]
  let widest := (g.commands.map (·.name.length)).foldl max 0
  let ordered := g.commands.mergeSort fun a b => decide (a.name ≤ b.name)
  let rows := ordered.map fun c => (c.name, shortHelp (pageWidth - 6 - widest) c.help)
  "\n\n".intercalate ([usageLine g.name groupPieces] ++ text ++
    [helpSection "Options" (g.allOptions.map fun o => (o.term, o.help))] ++
    (if rows.isEmpty then [] else [helpSection "Commands" rows]))

example : fillLines 10 ["one", "two", "three", "four"] = ["one two", "three four"] := by
  decide +kernel

example : shortHelp 20 [.prose "Show all the things that there are"] = "Show all the..." ∧
    shortHelp 45 [.prose "List it. More"] = "List it." := by
  decide +kernel

end ConsulLookup.Cli
