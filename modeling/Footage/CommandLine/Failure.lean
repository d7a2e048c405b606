import Footage.Config.Load
import Footage.Index.Error

/-!
# Reporting a failure

A failure says what could not be done, and below it the causes, each the cause of the one above.
Several causes are numbered from zero. Further lines of a cause are indented as far as its first.
-/

namespace Footage.CommandLine

set_option autoImplicit false

/-- What could not be done, and why. -/
structure Failure where
  context : String
  causes : List String
deriving DecidableEq, Repr

/-- A cause behind a mark, its further lines behind as many spaces. -/
def indented (mark cause : String) : String :=
  let lines := (Text.pieces '\n' cause.toList).map String.ofList
  mark ++ ("\n" ++ String.ofList (List.replicate mark.length ' ')).intercalate lines ++ "\n"

def numberMark (number : Nat) : String :=
  let digits := toString number
  String.ofList (List.replicate (5 - digits.length) ' ') ++ digits ++ ": "

def Failure.text (failure : Failure) : String :=
  let causes :=
    match failure.causes with
    | [] => ""
    | [cause] => "\nCaused by:\n" ++ indented "    " cause
    | causes =>
        let numbered := causes.zipIdx.map fun (cause, number) => indented (numberMark number) cause
        "\nCaused by:\n" ++ "".intercalate numbered
  "Error: " ++ failure.context ++ "\n" ++ causes

def configCauses (error : Config.ConfigError) : List String :=
  match error with
  | .fileRead _ cause => [error.text, cause]
  | _ => [error.text]

def indexCauses (error : Index.IndexError) : List String :=
  match error with
  | .database fault => [error.text, fault.text, fault.detail]
  | .unavailable _ => [error.text]

end Footage.CommandLine
