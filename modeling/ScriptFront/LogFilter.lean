import ScriptFront.Event

/-!
# Log filters

Which events a log shows. A setting is a level, or the beginning of component names,
an equals sign and a level for them; any other setting shows nothing. The beginning
is never empty: a level for every component is written without an equals sign.
-/

namespace ScriptFront

/-- What an event needs to be shown in a log. -/
structure LogFilter where
  /-- The name of its component begins like this. -/
  componentStart : String
  /-- Its level is at least this one; without a level nothing is shown. -/
  least : Option Level
deriving DecidableEq

namespace LogFilter

/-- The filter that shows nothing. -/
def silent : LogFilter := ⟨"", none⟩

/-- The level a word of a setting asks for, in letters of any case. The word for no
level at all is a level of a setting too. -/
def level? (word : List Char) : Option (Option Level) :=
  match String.ofList (word.map Char.toLower) with
  | "off" => some none
  | "error" => some (some .error)
  | "warn" => some (some .warn)
  | "info" => some (some .info)
  | "debug" => some (some .debug)
  | "trace" => some (some .trace)
  | _ => none

/-- The filter a setting describes. -/
def ofSetting (setting : String) : LogFilter :=
  let start := setting.toList.takeWhile (· != '=')
  match setting.toList.dropWhile (· != '=') with
  | [] => ⟨"", (level? start).join⟩
  | _ :: word => if start.isEmpty then silent else ⟨String.ofList start, (level? word).join⟩

/-- The filter in force under a setting, which need not be given. -/
def ofSetting? (setting : Option String) : LogFilter :=
  setting.elim silent ofSetting

/-- Whether an event is shown. -/
def shows (filter : LogFilter) (event : Event) : Bool :=
  filter.componentStart.toList.isPrefixOf event.component.name.toList &&
    filter.least.any fun least => least.rank ≤ event.level.rank

/-- The lines of a log for events in order. -/
def log (filter : LogFilter) (events : List Event) : String :=
  String.join ((events.filter filter.shows).map Event.logLine)

end LogFilter

end ScriptFront
