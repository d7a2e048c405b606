import Footage.Telemetry.FieldMatch
import Footage.Text.Cutting
import Footage.Text.Lowercase
import Footage.Text.WordTable

/-!
# Directives of log filters

A directive is a level for everything, a target with a level, or a target alone, which is logged
at every level. Square brackets behind the target keep the directive to spans: to those of a
name, and with curly brackets to those with a field.
-/

namespace Footage.Telemetry

set_option autoImplicit false

inductive Level where
  | off
  | error
  | warn
  | info
  | debug
  | trace
deriving DecidableEq, Repr

namespace Level

def text : Level → String
  | off => "off"
  | error => "error"
  | warn => "warn"
  | info => "info"
  | debug => "debug"
  | trace => "trace"

def all : List Level := [off, error, warn, info, debug, trace]

def parse? (text : String) : Option Level :=
  match Number.parseNatural UInt64.size text with
  | some number => all[number]?
  | none => all.find? fun level => String.ofList (text.toList.map Char.toLower) == level.text

end Level

/-- A level for the events of a target, or for all events; or for those in spans of a name or
with a field. -/
structure Directive where
  target? : Option String := none
  span? : Option String := none
  field? : Option FieldMatch := none
  level : Level
deriving DecidableEq

namespace Directive

def startsTarget (char : Char) : Bool :=
  char == '-' || char == ':' || char == '_' || Text.inRanges Text.WordTable.wordRanges char

def piece (text : List Char) (start stop : Nat) : String :=
  String.ofList ((text.take stop).drop start)

def levelFrom? (text : List Char) (start : Nat) : Option Level :=
  let behind := text.drop start
  if behind.isEmpty then some .trace else Level.parse? (String.ofList behind)

def levelBehind? (text rest : List Char) (position : Nat) : Option Level :=
  match rest with
  | [] => some .trace
  | '=' :: _ => levelFrom? text (position + 1)
  | _ => none

def spans? (text trimmed : List Char) (target? : Option String) (start : Nat) :
    Option Directive :=
  let name := (trimmed.drop start).takeWhile fun char => char != ']' && char != '\x7b'
  let stop := start + name.length
  match trimmed.drop stop with
  | ']' :: rest => do
      let level ← levelBehind? text rest (stop + 1)
      some { target?, span? := some (piece text start stop), level }
  | _ :: rest => do
      let field := rest.takeWhile (· ≠ '\x7d')
      let last := stop + 1 + field.length
      match rest.drop field.length with
      | '\x7d' :: ']' :: rest =>
          if field.isEmpty then none
          else
            let wanted ← FieldMatch.parse? (piece text (stop + 1) last)
            let level ← levelBehind? text rest (last + 2)
            let span? := if name.isEmpty then none else some (piece text start stop)
            some { target?, span?, field? := some wanted, level }
      | _ => none
  | [] => none

/-- The directive in a text. White space around it counts for what the text says and not for
where its parts are. -/
def parse? (text : String) : Option Directive :=
  let chars := text.toList
  let trimmed := Text.trimmed chars
  match trimmed.head? with
  | none => none
  | some '[' => spans? chars trimmed none 1
  | some first =>
      let stop := (trimmed.takeWhile fun char => char != '=' && char != '[').length
      let target := piece chars 0 stop
      if !startsTarget first then none
      else
        match trimmed.drop stop with
        | '=' :: _ =>
            (levelFrom? chars (stop + 1)).map fun level => { target? := some target, level }
        | '[' :: _ => spans? chars trimmed (some target) (stop + 1)
        | _ =>
            match Level.parse? text with
            | some level => some { level }
            | none => some { target? := some text, level := .trace }

def text (directive : Directive) : String :=
  let field := (directive.field?.map fun wanted => "\x7b" ++ wanted.text ++ "\x7d").getD ""
  let onSpans := directive.span?.isSome || directive.field?.isSome
  let brackets := if onSpans then "[" ++ directive.span?.getD "" ++ field ++ "]" else ""
  let mark := if onSpans || directive.target?.isSome then "=" else ""
  directive.target?.getD "" ++ brackets ++ mark ++ directive.level.text

def orderOf? {α : Type} (order : α → α → Ordering) : Option α → Option α → Ordering
  | none, none => .eq
  | none, some _ => .lt
  | some _, none => .gt
  | some a, some b => order a b

/-- Directives by how specific they are: with longer targets, with a span, with a field. Among
directives alike in that, by the order of characters. -/
def order (a b : Directive) : Ordering :=
  (orderOf? (fun a b : String => compare a.utf8ByteSize b.utf8ByteSize) a.target? b.target?).then <|
    (compare a.span?.isSome b.span?.isSome).then <|
      (compare a.field?.isSome b.field?.isSome).then <|
        (orderOf? compare a.target? b.target?).then <|
          (orderOf? compare a.span? b.span?).then (orderOf? FieldMatch.order a.field? b.field?)

/-- The directives with one more in its place, the most specific first; it replaces one that is
as specific as it is. -/
def insert (added : Directive) : List Directive → List Directive
  | [] => [added]
  | held :: rest =>
      match order added held with
      | .eq => added :: rest
      | .gt => added :: held :: rest
      | .lt => held :: insert added rest

def isDynamic (directive : Directive) : Bool := directive.span?.isSome || directive.field?.isSome

/-- The directive can be decided before any span is entered: it asks for no name and no value. -/
def isStatic (directive : Directive) : Bool :=
  directive.span?.isNone && !(directive.field?.any fun wanted => wanted.value?.isSome)

end Directive

end Footage.Telemetry
