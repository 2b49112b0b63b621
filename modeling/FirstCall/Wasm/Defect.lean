/-!
# Defects

Why a blob is not a module. A blob is read first and checked second; both stages report the
first defect that they meet.
-/

namespace FirstCall.Wasm

inductive Space where
  | type
  | function
  | table
  | memory
  | global
  | local
  | label
  | segment
  deriving DecidableEq, Repr

def Space.text : Space → String
  | .type => "type"
  | .function => "function"
  | .table => "table"
  | .memory => "memory"
  | .global => "global"
  | .local => "local"
  | .label => "label"
  | .segment => "segment"

inductive Defect where
  | unexpectedEnd
  | badHeader
  | integerTooLong
  | nameTooLong
  | nameNotUtf8
  | unknownSection (id : UInt8)
  | sectionOutOfOrder (id : UInt8)
  | trailingBytes
  | unknownType (code : Nat)
  | unknownKind (code : UInt8)
  | unknownOpcode (code : UInt8)
  | badFlags (flags : Nat)
  | missingEnd
  /-- The function section and the code section disagree, or the data sections do. -/
  | countMismatch
  | tooMany (count : Nat)
  | unknownIndex (space : Space) (index : Nat)
  | duplicateExport (name : String)
  | typeMismatch
  | stackMismatch
  | immutableGlobal (index : Nat)
  | undeclaredReference (index : Nat)
  | notConstant
  | badAlignment
  | unknownLane
  | badLimits
  | badStart
  deriving DecidableEq, Repr

def Defect.message : Defect → String
  | .unexpectedEnd => "the module ends too early"
  | .badHeader => "the module has another header or version"
  | .integerTooLong => "an integer is written with too many bits"
  | .nameTooLong => "a name is too long"
  | .nameNotUtf8 => "a name is not UTF-8 text"
  | .unknownSection id => "section " ++ toString id.toNat ++ " is unknown"
  | .sectionOutOfOrder id => "section " ++ toString id.toNat ++ " is out of order"
  | .trailingBytes => "bytes follow the end of a section or a body"
  | .unknownType code => "type code " ++ toString code ++ " is unknown"
  | .unknownKind code => "kind code " ++ toString code.toNat ++ " is unknown"
  | .unknownOpcode code => "opcode " ++ toString code.toNat ++ " is unknown"
  | .badFlags flags => "flags " ++ toString flags ++ " are unknown"
  | .missingEnd => "a block is not closed"
  | .countMismatch => "two sections disagree on a count"
  | .tooMany count => toString count ++ " items are too many"
  | .unknownIndex space index => space.text ++ " " ++ toString index ++ " is unknown"
  | .duplicateExport name => "two exports are named " ++ name
  | .typeMismatch => "an operand has another type"
  | .stackMismatch => "operands are missing or left over"
  | .immutableGlobal index => "global " ++ toString index ++ " is immutable"
  | .undeclaredReference index => "function " ++ toString index ++ " is not declared as a reference"
  | .notConstant => "an expression is not constant"
  | .badAlignment => "an alignment is larger than natural"
  | .unknownLane => "a lane of a vector is unknown"
  | .badLimits => "limits are out of range"
  | .badStart => "the start function takes or returns values"

end FirstCall.Wasm
