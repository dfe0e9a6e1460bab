/-
# CommandLine.Reading -- what a command line asks for

A command line is a sequence of words.  Some words lead from a command to one below it;
the settings and switches between them belong to the command they stand behind.  The
reading keeps a frame for every command that was entered.

* A setting is settled only when the next setting or switch comes, or at the end, so a
  fault in its value is reported later than one in an unknown word.
* At the end the frames are completed from the innermost out: settings that a frame
  lacks are taken from the environment, whose values are checked there.
* A value of the command line counts before one of the environment, and that of an
  inner command before that of an outer one.
-/
import CatalogListing.CommandLine.Setting

namespace CatalogListing.CommandLine

set_option autoImplicit false

/-! ## Commands -/

/-- A command, or what leads to one. -/
inductive Level where
  | top
  | start
  | system
  | prune
  | seed
  deriving DecidableEq, Repr

namespace Level

/-- The levels below, with their names. -/
def below : Level → List (Text × Level)
  | .top => [("start", .start), ("system", .system)]
  | .system => [("prune", .prune), ("seed", .seed)]
  | _ => []

/-- The level below that a word names. -/
def below? (level : Level) (word : Text) : Option Level :=
  level.below.lookup word

/-- There are levels below, and with them the word for help on these. -/
def hasBelow (level : Level) : Bool :=
  !level.below.isEmpty

/-- The switches that a level has. -/
def switches : Level → List Switch
  | .top => [.help, .version]
  | .prune => [.yes, .help]
  | _ => [.help]

/-- The switch of a long name. -/
def switchNamed? (level : Level) (name : Text) : Option Switch :=
  level.switches.find? fun switch => switch.name == name

/-- The switch of a letter. -/
def switchLettered? (level : Level) (letter : Char) : Option Switch :=
  level.switches.find? fun switch => switch.letter == letter

end Level

/-- What a command line asks to do. -/
inductive Command where
  | start
  | prune (yes : Bool)
  | seed
  deriving DecidableEq, Repr

/-! ## Faults -/

/-- Why a command line is not carried out. -/
inductive Cause where
  | helpWanted
  /-- Help was asked for on the word for help. -/
  | helpOnHelpWanted
  | versionWanted
  /-- A command lacks the word for a level below, and anything else. -/
  | helpNeeded
  | commandMissing
  | commandUnknown (word : Text)
  /-- Help was asked for on a command that is unknown. -/
  | subjectUnknown (word : Text)
  /-- A name behind two dashes that is unknown. -/
  | nameUnknown (name : Text)
  /-- A letter behind one dash that is unknown. -/
  | letterUnknown (letter : Char)
  /-- A word too many. -/
  | wordUnexpected (word : Text)
  /-- The name of a command behind the end of settings. -/
  | commandTooLate (word : Text)
  | valueMissing (setting : Setting)
  | valueRefused (setting : Setting) (value : Text) (refusal : Refusal)
  | settingRepeated (setting : Setting)
  | switchRepeated (switch : Switch)
  | valueUnexpected (switch : Switch) (value : Text)
  deriving DecidableEq, Repr

/-- A frame: a command with what was given behind it. -/
structure Frame where
  level : Level
  given : GivenSettings := {}
  yes : Bool := false
  /-- The settings and switches that were given, as they are shown, in their order. -/
  mentioned : List Text := []
  /-- A setting that is not settled, and its value once it has come. -/
  pending : Option (Setting × Option Text) := none
  deriving DecidableEq, Repr

/-- A cause with the frame it arose in, and the words behind the one it arose at. -/
structure UsageError where
  frame : Frame
  cause : Cause
  rest : List Text := []
  deriving DecidableEq, Repr

namespace Frame

/-! ## Settings and switches -/

/-- The frame without a setting that is pending, and with one more that is mentioned. -/
def mention (frame : Frame) (shown : Text) : Frame :=
  { frame with
    pending := none
    mentioned :=
      if frame.mentioned.contains shown then frame.mentioned else frame.mentioned ++ [shown] }

/-- The frame without a setting that is pending, and without the mention of one. -/
def forget (frame : Frame) (shown : Text) : Frame :=
  { frame with pending := none, mentioned := frame.mentioned.filter (· != shown) }

/-- A value is given to a setting. -/
def accept (frame : Frame) (setting : Setting) (value : Text) : Except UsageError Frame :=
  if setting.isIn frame.given && !setting.repeats then
    .error { frame := frame.forget setting.shown, cause := .settingRepeated setting }
  else
    let frame := frame.mention setting.shown
    match setting.assign frame.given value with
    | .ok given => .ok { frame with given }
    | .error refusal => .error { frame, cause := .valueRefused setting value refusal }

/-- The pending setting is settled. -/
def settle (frame : Frame) : Except UsageError Frame :=
  match frame.pending with
  | none => .ok frame
  | some (setting, none) =>
      .error { frame := { frame with pending := none }, cause := .valueMissing setting }
  | some (setting, some value) => frame.accept setting value

/-- The frame after the pending setting is settled, whether that succeeds or not. -/
def settled (frame : Frame) : Frame :=
  match frame.settle with
  | .ok frame => frame
  | .error error => error.frame

/-- A setting with a value in the same word, or without one. -/
def begin (frame : Frame) (setting : Setting) (value : Option Text) : Except UsageError Frame := do
  let frame ← frame.settle
  match value with
  | some value => frame.accept setting value
  | none => return { frame with pending := some (setting, none) }

/-- A switch. -/
def turn (frame : Frame) (switch : Switch) : Except UsageError Frame := do
  let frame ← frame.settle
  match switch with
  | .help => .error { frame, cause := .helpWanted }
  | .version => .error { frame, cause := .versionWanted }
  | .yes =>
      if frame.yes then .error { frame, cause := .switchRepeated .yes }
      else return { frame.mention Switch.yes.shown with yes := true }

/-- The setting whose value the next word may be. -/
def awaits? (frame : Frame) : Option Setting :=
  match frame.pending with
  | some (setting, none) => some setting
  | _ => none

/-! ## Words -/

/-- What stands behind two dashes: a name, and perhaps a value behind an equals sign. -/
def long (frame : Frame) (body : Text) : Except UsageError Frame :=
  let (name, value) : Text × Option Text := match Text.splitAtFirst '=' body with
    | some (name, value) => (name, some value)
    | none => (body, none)
  match Setting.named? name, frame.level.switchNamed? name, value with
  | some setting, _, value => frame.begin setting value
  | none, some switch, none => frame.turn switch
  | none, some switch, some value => .error { frame, cause := .valueUnexpected switch value }
  | none, none, _ => .error { frame := frame.settled, cause := .nameUnknown name }

/-- The value that the rest of a word of letters is. -/
def attached : Text → Option Text
  | [] => none
  | '=' :: value => some value
  | value => some value

/-- The letters behind one dash; the rest of the word behind the letter of a setting is
its value. -/
def letters (frame : Frame) : Text → Except UsageError Frame
  | [] => .ok frame
  | c :: rest =>
      match Setting.lettered? c, frame.level.switchLettered? c with
      | some setting, _ => frame.begin setting (attached rest)
      | none, some switch =>
          match frame.turn switch with
          | .ok frame => frame.letters rest
          | .error error => .error error
      | none, none => .error { frame, cause := .letterUnknown c }

/-- A word that is no setting, switch or command. -/
def stray (frame : Frame) (trailing : Bool) (word : Text) : UsageError :=
  let known := (frame.level.below? word).isSome || (frame.level.hasBelow && word = "help")
  if trailing && known then { frame, cause := .commandTooLate word }
  else if frame.level.hasBelow then { frame, cause := .commandUnknown word }
  else { frame, cause := .wordUnexpected word }

/-- A word that leads to no other command. -/
def word (frame : Frame) (word : Text) : Except UsageError Frame :=
  match word, frame.awaits? with
  | '-' :: '-' :: body, _ => frame.long body
  | '-' :: c :: rest, _ => frame.letters (c :: rest)
  | word, some setting => .ok { frame with pending := some (setting, some word) }
  | word, none => .error (frame.stray false word)

end Frame

/-! ## The whole line -/

/-- A reading in progress. -/
inductive Reading where
  /-- The frames around the innermost one, from the inside out; behind the end of the
  settings no word is allowed. -/
  | within (outer : List Frame) (frame : Frame) (trailing : Bool)
  /-- Help was asked for, and the words lead to its subject; none is help itself. -/
  | help (frame : Frame) (subject : Option Level)

/-- One more word. -/
def Reading.step : Reading → Text → Except UsageError Reading
  | .help frame subject, word =>
      match subject with
      | some level =>
          match level.below? word with
          | some next => .ok (.help { level := next } (some next))
          | none =>
              if level.hasBelow && word = "help" then .ok (.help frame none)
              else .error { frame, cause := .subjectUnknown word }
      | none => .error { frame, cause := .subjectUnknown word }
  | .within _ frame true, word => .error (frame.stray true word)
  | .within outer frame false, word =>
      match frame.awaits?, frame.level.below? word with
      | none, some next => .ok (.within (frame :: outer) { level := next } false)
      | awaits, _ =>
          if awaits.isNone && frame.level.hasBelow && word = "help" then
            .ok (.help frame (some frame.level))
          else if word = "--" then .ok (.within outer frame true)
          else (frame.word word).map fun frame => .within outer frame false

/-! ## Completion -/

/-- The value of the environment for a setting that the frame lacks is checked. -/
def Frame.checkEnvironment (lookup : Text → Option Text) (frame : Frame) (setting : Setting) :
    Except UsageError Unit :=
  match setting.isIn frame.given, lookup setting.environmentName with
  | false, some value =>
      match setting.assign {} value with
      | .ok _ => .ok ()
      | .error refusal => .error { frame, cause := .valueRefused setting value refusal }
  | _, _ => .ok ()

/-- Something was given for the frame, on the command line or in the environment. -/
def Frame.hasAny (lookup : Text → Option Text) (frame : Frame) : Bool :=
  Setting.all.any fun setting =>
    setting.isIn frame.given || (lookup setting.environmentName).isSome

/-- The frame is complete; `inner` tells whether a word led further in. -/
def Frame.complete (lookup : Text → Option Text) (inner : Bool) (frame : Frame) :
    Except UsageError Frame := do
  let frame ← frame.settle
  Setting.all.forM (frame.checkEnvironment lookup)
  if frame.level = .system && !inner then
    .error { frame, cause := if frame.hasAny lookup then .commandMissing else .helpNeeded }
  else return frame

/-- Frames from the inside out, completed in this order. -/
def completeAll (lookup : Text → Option Text) (inner : Bool) :
    List Frame → Except UsageError (List Frame)
  | [] => .ok []
  | frame :: outer => do
      let frame ← frame.complete lookup inner
      let outer ← completeAll lookup true outer
      return frame :: outer

/-- The settings of an inner command over those of an outer one. -/
def overriding (inner outer : GivenSettings) : GivenSettings :=
  { host := inner.host.or outer.host
    port := inner.port.or outer.port
    config := inner.config.or outer.config
    dbPath := inner.dbPath.or outer.dbPath
    defaultLimit := inner.defaultLimit.or outer.defaultLimit
    maxLimit := inner.maxLimit.or outer.maxLimit
    corsOrigins := if inner.corsOrigins.isEmpty then outer.corsOrigins else inner.corsOrigins }

/-- The settings that the environment gives; a value that is refused gives none. -/
def environmentSettings (lookup : Text → Option Text) : GivenSettings :=
  Setting.all.foldl
    (fun given setting =>
      match lookup setting.environmentName with
      | some value => (setting.assign given value).toOption.getD given
      | none => given) {}

/-- What a complete command line asks for. -/
structure Invocation where
  command : Option Command
  given : GivenSettings
  deriving DecidableEq, Repr

/-- The command of the innermost frame. -/
def Frame.command? (frame : Frame) : Option Command :=
  match frame.level with
  | .start => some .start
  | .prune => some (.prune frame.yes)
  | .seed => some .seed
  | .top | .system => none

/-- The invocation that completed frames are. -/
def invocation (lookup : Text → Option Text) (frames : List Frame) : Invocation where
  command := frames.head?.bind Frame.command?
  given := overriding (frames.foldr (fun frame outer => overriding frame.given outer) {})
    (environmentSettings lookup)

/-- The end of the words. -/
def Reading.finish (lookup : Text → Option Text) : Reading → Except UsageError Invocation
  | .help frame (some _) => .error { frame, cause := .helpWanted }
  | .help frame none => .error { frame, cause := .helpOnHelpWanted }
  | .within outer frame _ =>
      (completeAll lookup false (frame :: outer)).map (invocation lookup)

/-- Words one after the other. -/
def Reading.steps : Reading → List Text → Except UsageError Reading
  | reading, [] => .ok reading
  | reading, word :: rest =>
      match reading.step word with
      | .ok reading => reading.steps rest
      | .error error => .error { error with rest }

/-- The invocation that the words of a command line are, in an environment. -/
def read (lookup : Text → Option Text) (words : List Text) : Except UsageError Invocation := do
  let reading ← Reading.steps (.within [] { level := .top } false) words
  reading.finish lookup

end CatalogListing.CommandLine
