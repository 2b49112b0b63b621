/-!
# Program output

A program prints 32-bit integers. They are either kept as they are or written as text, one
decimal numeral to a line; the text is determined by the kept values.
-/

namespace FirstCall

inductive Printout where
  | kept (values : Array Int32)
  | lines (text : String)
  deriving DecidableEq, Repr

namespace Printout

def line (value : Int32) : String := toString value.toInt ++ "\n"

def print (sink : Printout) (value : Int32) : Printout :=
  match sink with
  | .kept values => .kept (values.push value)
  | .lines text => .lines (text ++ line value)

def values : Printout → List Int32
  | .kept values => values.toList
  | .lines _ => []

def text : Printout → String
  | .kept _ => ""
  | .lines text => text

end Printout

end FirstCall
