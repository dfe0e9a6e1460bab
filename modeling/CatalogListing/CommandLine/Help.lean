/-
# CommandLine.Help -- help and reports on the command line

The help on a level shows what it is for, how it is used, the commands below it and
its settings and switches.  A report on a command line that cannot be carried out says
what is wrong and points to the help.
-/
import CatalogListing.CommandLine.Likeness
import CatalogListing.CommandLine.Reading
import CatalogListing.Http.Description

namespace CatalogListing.CommandLine

set_option autoImplicit false

/-! ## Names -/

/-- The words that lead to a level. -/
def Level.path : Level → Text
  | .top => "sieve"
  | .start => "sieve start"
  | .system => "sieve system"
  | .prune => "sieve system prune"
  | .seed => "sieve system seed"

/-- What a level is for. -/
def Level.about : Level → Text
  | .top => "Filtered, paginated listing over an embedded catalog"
  | .start => "Start the server (default command)"
  | .system => "System maintenance commands"
  | .prune => "Delete local data directory (database included). Requires confirmation"
  | .seed => "Insert the demo catalog (authors, books, reviews) into an empty database"

/-- What a setting is for. -/
def Setting.about : Setting → Text
  | .host => "Server host address"
  | .port => "Server port"
  | .config => "Path to config file"
  | .dbPath => "SQLite database file (defaults to the data directory)"
  | .defaultLimit => "Page size when a request has no \x60limit\x60"
  | .maxLimit => "Largest accepted \x60limit\x60; larger values are clamped"
  | .corsOrigins => "Extra allowed CORS origins"

/-- What a switch is for. -/
def Switch.about : Switch → Text
  | .yes => "Skip confirmation prompt"
  | .help => "Print help"
  | .version => "Print version"

/-! ## Usage -/

/-- How a level is used; in short where settings and switches are named. -/
def usage (level : Level) (named : List Text) : Text :=
  let options : List Text := if named.isEmpty then ["[OPTIONS]"] else named
  let commands : List Text := match level with
    | .top => if named.isEmpty then ["[COMMAND]"] else []
    | .system => ["<COMMAND>"]
    | _ => []
  "Usage: " ++ List.intercalate [' '] (level.path :: (options ++ commands))

/-! ## Help -/

/-- The line of a command below a level. -/
def commandLine (width : Nat) (name about : Text) : Text :=
  "  " ++ name ++ List.replicate (width + 2 - name.length) ' ' ++ about ++ ['\n']

/-- The commands below a level. -/
def commandLines (level : Level) : Text :=
  let helpCommand : Text × Text :=
    ("help", "Print this message or the help of the given subcommand(s)")
  let commands := level.below.map (fun below => (below.1, below.2.about)) ++ [helpCommand]
  let width := (commands.map fun command => command.1.length).foldl max 2
  commands.flatMap fun command => commandLine width command.1 command.2

/-- The lines of a setting or a switch. -/
def optionLines (letter : Option Char) (shown about : Text) : Text :=
  let lead : Text := match letter with
    | some c => ['-', c, ',', ' ']
    | none => "    "
  "  " ++ lead ++ shown ++ '\n' :: List.replicate 10 ' ' ++ about ++ ['\n']

/-- The lines of a setting, with the value of its variable. -/
def settingLines (lookup : Text → Option Text) (setting : Setting) : Text :=
  optionLines setting.letter? setting.shown
    (setting.about ++ " [env: " ++ setting.environmentName ++ '=' ::
      (lookup setting.environmentName).getD [] ++ [']'])

/-- The lines of a switch. -/
def switchLines (switch : Switch) : Text :=
  optionLines (some switch.letter) switch.shown switch.about

/-- The lines of the settings and switches of a level. -/
def allOptionLines (lookup : Text → Option Text) (level : Level) : Text :=
  let yes : Text := if level = .prune then switchLines .yes else []
  settingLines lookup .host ++ yes ++ Setting.all.tail.flatMap (settingLines lookup) ++
    switchLines .help ++ if level = .top then switchLines .version else []

/-- The help on a level. -/
def help (lookup : Text → Option Text) (level : Level) : Text :=
  level.about ++ "\n\n" ++ usage level [] ++ "\n\n" ++
    (if level.hasBelow then "Commands:\n" ++ commandLines level ++ ['\n'] else []) ++
    "Options:\n" ++ allOptionLines lookup level

/-- The help on the word for help. -/
def helpOnHelp (level : Level) : Text :=
  "Print this message or the help of the given subcommand(s)\n\nUsage: " ++ level.path ++
    " help [COMMAND]...\n\nArguments:\n  [COMMAND]...  Print help for the subcommand(s)\n"

/-- The name and the version of the program. -/
def versionText : Text :=
  "sieve " ++ Http.version ++ ['\n']

/-! ## Reports -/

/-- Why a number cannot be read. -/
def numberFault (value : Text) : Text :=
  let digits := match value with
    | '-' :: rest | '+' :: rest => rest
    | _ => value
  if value.isEmpty then "cannot parse integer from empty string"
  else if digits.isEmpty || !digits.all Char.isDigit then "invalid digit found in string"
  else if value.head? = some '-' then "number too small to fit in target type"
  else "number too large to fit in target type"

/-- A number without a sign in front and leading zeros. -/
def plainNumber (value : Text) : Text :=
  ((Text.integer? value).map Text.ofInt).getD value

/-- A value that is refused. -/
def refusedText (setting : Setting) (value fault : Text) : Text :=
  "invalid value '" ++ value ++ "' for '" ++ setting.shown ++ "': " ++ fault

/-- A value that is not there. -/
def missingText (setting : Setting) : Text :=
  "a value is required for '" ++ setting.shown ++ "' but none was supplied"

/-- Something that was given twice. -/
def repeatedText (shown : Text) : Text :=
  "the argument '" ++ shown ++ "' cannot be used multiple times"

/-- Something that no level knows. -/
def unexpectedText (word : Text) : Text :=
  "unexpected argument '" ++ word ++ "' found"

/-- The names of the commands below a level. -/
def commandNames (level : Level) : List Text :=
  level.below.map (·.1) ++ [("help" : Text)]

/-- What is wrong. -/
def Cause.text (frame : Frame) : Cause → Text
  | .helpWanted | .helpOnHelpWanted | .versionWanted | .helpNeeded => []
  | .commandMissing =>
      '\'' :: frame.level.path ++
        "' requires a subcommand but one was not provided\n  [subcommands: " ++
        List.intercalate ", " (commandNames frame.level) ++ [']']
  | .commandUnknown word | .subjectUnknown word => "unrecognized subcommand '" ++ word ++ ['\'']
  | .nameUnknown name => unexpectedText ("--" ++ name)
  | .letterUnknown letter => unexpectedText ['-', letter]
  | .wordUnexpected word | .commandTooLate word => unexpectedText word
  | .valueMissing setting | .valueRefused setting _ .empty => missingText setting
  | .valueRefused setting value .notANumber => refusedText setting value (numberFault value)
  | .valueRefused setting value (.outOfRange bound) =>
      refusedText setting value
        (plainNumber value ++ " is not in 0..=" ++ Text.ofNat bound)
  | .settingRepeated setting => repeatedText setting.shown
  | .switchRepeated switch => repeatedText switch.shown
  | .valueUnexpected switch value =>
      "unexpected value '" ++ value ++ "' for '" ++ switch.shown ++
        "' found; no more were expected"

/-! ## What may have been meant -/

/-- The names behind two dashes that a level knows. -/
def longNames (level : Level) : List Text :=
  let own (switch : Switch) : List Text :=
    if level.switches.contains switch then [switch.name] else []
  own .yes ++ Setting.all.map Setting.name ++ own .help ++ own .version

/-- A setting or switch of a name, as it is shown. -/
def shownName (level : Level) (name : Text) : Text :=
  ((Setting.named? name).map Setting.shown).or ((level.switchNamed? name).map Switch.shown)
    |>.getD name

/-- The command below a level that comes first in the rest of the words, among those that
know a name alike to an unknown one; with the name. -/
def closestBelow? (level : Level) (name : Text) (rest : List Text) : Option (Text × Text) :=
  let known := level.below.filterMap fun below =>
    (Likeness.closest? name (longNames below.2)).map fun found => (below.1, found)
  rest.findSome? fun word => known.find? fun found => found.1 == word

/-- A list of words between quotes. -/
def quotedList (words : List Text) : Text :=
  List.intercalate ", " (words.map fun word => '\'' :: (word ++ ['\'']))

/-- A hint. -/
def hint (text : Text) : Text :=
  "\n\n  tip: " ++ text

/-- The hint at names that are alike. -/
def similarTip (kind : Text) : List Text → Text
  | [] => []
  | [name] => hint ("a similar " ++ kind ++ " exists: " ++ quotedList [name])
  | names => hint ("some similar " ++ kind ++ "s exist: " ++ quotedList names)

/-- What may have been meant. -/
def UsageError.tip (error : UsageError) : Text :=
  let level := error.frame.level
  match error.cause with
  | .commandUnknown word =>
      similarTip "subcommand" (Likeness.candidates word (commandNames level))
  | .nameUnknown name =>
      match Likeness.closest? name (longNames level) with
      | some found => similarTip "argument" ["--" ++ found]
      | none =>
          match closestBelow? level name error.rest with
          | some (command, found) =>
              hint ('\'' :: command ++ " --" ++ found ++ "' exists")
          | none => []
  | .commandTooLate word =>
      hint ("subcommand '" ++ word ++
        "' exists; to use it, remove the '--' before it")
  | _ => []

/-- The usage that a report shows, if it shows one.  It names what was given, and what
may have been meant, when a name is unknown. -/
def UsageError.usage? (error : UsageError) : Option Text :=
  let level := error.frame.level
  let mentioned := error.frame.mentioned
  match error.cause with
  | .valueMissing _ | .valueRefused .. => none
  | .nameUnknown name =>
      let meant := ((Likeness.closest? name (longNames level)).map (shownName level)).toList
      some (usage level (mentioned ++ meant.filter fun shown => !mentioned.contains shown))
  | .valueUnexpected switch _ => some (usage level (mentioned ++ [switch.shown]))
  | _ => some (usage level [])

/-- The report on a command line that cannot be carried out. -/
def UsageError.report (error : UsageError) : Text :=
  let shown : Text := match error.usage? with
    | some usage => "\n\n" ++ usage
    | none => []
  "error: " ++ error.cause.text error.frame ++ error.tip ++ shown ++
    "\n\nFor more information, try '--help'.\n"

end CatalogListing.CommandLine
