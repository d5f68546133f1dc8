/-!
# Faults

What can go wrong in a computation on values that were never checked: a number without an
integer part, an index beyond the end, a date beyond the calendar. A fault is a cause; its
wording stands in `Fault.message` alone, and its category decides who handles it: faults of
conversion, of lookup and of type that arise while a response is read count against that
response, all others end the work at hand.
-/

namespace MetricFrames

/-- The cause of a fault. Where a value of the wrong type is to blame, `type` names its type. -/
inductive Fault where
  | nanToInteger
  | infinityToInteger
  | powerTooLarge
  | zeroToNegativePower
  | quotientTooLarge
  | integerTooLarge
  | indexOutOfRange
  | mixedOffsets
  | dateOutOfRange
  | notDecimal (quoted : String)
  | tooManyDigits (count : Nat)
  | emptyNumeral (base : Nat)
  | notNumeric (type : String)
  | notIterable (type : String)
  | notComparable (type : String)
  | noMember (type name : String)
  | badAddress (reason : String)
  | unknownKind (quoted : String)
  | clientClosed
  | strayClosingTag (tag : String) (position : Nat)
  | nothingToClose (tag : String) (position : Nat)
  | unreadableHandler (reason : String)
  | unreadableToken (reason : String)
  | isDirectory (quoted : String)
  | nameTooLong (quoted : String)
  | nullInPath
  | foreign (kind message : String)
  deriving DecidableEq

/-- The families of faults. -/
inductive Fault.Category where
  | value | type | index | member | overflow | zeroDivision | state | address | styling
  | directory | system
  | foreign (kind : String)
  deriving DecidableEq

/-- The family of a fault. -/
def Fault.category : Fault → Fault.Category
  | .nanToInteger | .notDecimal _ | .tooManyDigits _ | .emptyNumeral _ | .unreadableToken _
  | .nullInPath | .unknownKind _ => .value
  | .mixedOffsets | .notNumeric _ | .notIterable _ | .notComparable _ => .type
  | .indexOutOfRange => .index
  | .noMember .. => .member
  | .infinityToInteger | .powerTooLarge | .quotientTooLarge | .integerTooLarge
  | .dateOutOfRange => .overflow
  | .zeroToNegativePower => .zeroDivision
  | .clientClosed => .state
  | .badAddress _ => .address
  | .strayClosingTag .. | .nothingToClose .. | .unreadableHandler _ => .styling
  | .isDirectory _ => .directory
  | .nameTooLong _ => .system
  | .foreign kind _ => .foreign kind

/-- The digits that an integer in a file or a reply may have. -/
def Fault.maxDigits : Nat := 4300

/-- The wording of a fault. -/
def Fault.message : Fault → String
  | .nanToInteger => "cannot convert float NaN to integer"
  | .infinityToInteger => "cannot convert float infinity to integer"
  | .powerTooLarge => "(34, 'Numerical result out of range')"
  | .zeroToNegativePower => "0.0 cannot be raised to a negative power"
  | .quotientTooLarge => "integer division result too large for a float"
  | .integerTooLarge => "int too large to convert to float"
  | .indexOutOfRange => "list index out of range"
  | .mixedOffsets => "can't subtract offset-naive and offset-aware datetimes"
  | .dateOutOfRange => "date value out of range"
  | .notDecimal quoted => "could not convert string to float: " ++ quoted
  | .tooManyDigits count =>
    "Exceeds the limit (" ++ toString maxDigits ++ " digits) for integer string conversion: " ++
      "value has " ++ toString count ++
      " digits; use sys.set_int_max_str_digits() to increase the limit"
  | .emptyNumeral base => "invalid literal for int() with base " ++ toString base ++ ": ''"
  | .notNumeric type => "float() argument must be a string or a real number, not '" ++ type ++ "'"
  | .notIterable type => "'" ++ type ++ "' object is not iterable"
  | .notComparable type =>
    "'<=' not supported between instances of '" ++ type ++ "' and 'int'"
  | .noMember type name => "'" ++ type ++ "' object has no attribute '" ++ name ++ "'"
  | .badAddress reason => reason
  | .unknownKind quoted => "unknown url type: " ++ quoted
  | .clientClosed => "Cannot send a request, as the client has been closed."
  | .strayClosingTag tag position =>
    "closing tag '" ++ tag ++ "' at position " ++ toString position ++
      " doesn't match any open tag"
  | .nothingToClose tag position =>
    "closing tag '" ++ tag ++ "' at position " ++ toString position ++ " has nothing to close"
  | .unreadableHandler reason => reason
  | .unreadableToken reason => reason
  | .isDirectory quoted => "[Errno 21] Is a directory: " ++ quoted
  | .nameTooLong quoted => "[Errno 36] File name too long: " ++ quoted
  | .nullInPath => "embedded null byte"
  | .foreign _ message => message

/-- Faults of conversion, of lookup and of type. -/
def Fault.isUnreadable (f : Fault) : Bool :=
  f.category = .value || f.category = .index || f.category = .type

/-- The item at a position, counted from the end if it is negative. -/
def atPosition {α : Type} (items : List α) (n : Int) : Except Fault α :=
  match (if n < 0 then
      (if items.length < n.natAbs then none else items[items.length - n.natAbs]?)
    else items[n.toNat]?) with
  | some item => .ok item
  | none => .error .indexOutOfRange

end MetricFrames
