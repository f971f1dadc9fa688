import Tmtccmd.Python
import Tmtccmd.Unicode

/-! # Python objects, enumerations and `==`

`check_args_in_enum` and its callers in `tmtccmd/defaults/globals_setup.py` take arbitrary
Python objects: command-line arguments (`None`, booleans, integers, strings), members of
enumerations, and anything else.  The semantics are those of Python 3.8, whose
`collections.Iterable` the source still names.

* An `EnumMember` belongs to an `enum.Enum` (`plain`: its value is an int or a string, and it
  equals only itself), to an `enum.IntEnum` (`int`: the member *is* its int value: it equals it,
  `int()` converts it and `isinstance(m, int)` holds), or to an `Enum` with `str` mixed in
  (`str`: the member is its string value in the same way).  A member is named by its class and
  member name, which `str()` prints as `Class.NAME`.
* `PyObj.other` is an object of any other type, given by its `str()` and its truth value; the
  code never compares two such objects, and floats are not modelled.
* `pyEq` is `==` and `pyIn` is `x in list`.
* `strIsDigit`, `strLower` and `pyIntOfStr` are `str.isdigit`, `str.lower` and `int()` of a
  string as CPython computes them over the Unicode tables of `Unicode.lean`: `isdigit` accepts
  digits such as `²` that `int()` rejects, and `int()` reads every decimal digit, strips
  whitespace and takes a sign and underscores between digits. -/

namespace Tmtccmd

/-- The value of an enumeration member. -/
inductive EnumValue where
  | int (n : ℤ)
  | str (s : String)
deriving DecidableEq, Repr

/-- A member of an `enum.Enum`, of an `enum.IntEnum`, or of an `Enum` with `str` mixed in. -/
inductive EnumMember where
  | plain (cls name : String) (value : EnumValue)
  | int (cls name : String) (value : ℤ)
  | str (cls name value : String)
deriving DecidableEq, Repr

/-- `member.value`. -/
def EnumMember.value : EnumMember → EnumValue
  | .plain _ _ v => v
  | .int _ _ n => .int n
  | .str _ _ s => .str s

/-- The Python objects the configuration code handles. -/
inductive PyObj where
  | none
  | bool (b : Bool)
  | int (n : ℤ)
  | str (s : String)
  | member (m : EnumMember)
  | other (repr : String) (truthy : Bool)
deriving DecidableEq, Repr

/-! ### Strings -/

/-- `s.isdigit()`: a non-empty string of digits. -/
def strIsDigit (s : String) : Bool := !s.data.isEmpty && s.data.all Unicode.isDigit

/-- `str.lower` on the characters `cs`, `before` listing the characters before them, nearest
first, which the final-sigma rule reads. -/
def lowerAux : List Char → List Char → List Char
  | _, [] => []
  | before, c :: cs =>
    (if c = 'Σ' then [if Unicode.finalSigma before cs then 'ς' else 'σ'] else Unicode.lowerChar c) ++
      lowerAux (c :: before) cs

/-- `s.lower()`. -/
def strLower (s : String) : String := ⟨lowerAux [] s.data⟩

/-- How `int()` reads a character: ASCII as it is, other whitespace as a space, another decimal
digit as the ASCII digit of its value, and anything else as `?`, which no numeral contains. -/
def intChar (c : Char) : Char :=
  if c.toNat < 127 then c
  else if Unicode.isSpace c then ' '
  else match Unicode.decimalValue? c with
    | some d => Char.ofNat (48 + d)
    | Option.none => '?'

/-- The ASCII whitespace `int()` strips around a numeral. -/
def isAsciiSpace (c : Char) : Bool := c = ' ' || (9 ≤ c.toNat && c.toNat ≤ 13)

/-- The rest of a base-10 numeral after a digit, an underscore standing only between two digits:
its value, `acc` being the value so far. -/
def numeralValue (acc : ℕ) : List Char → Option ℕ
  | [] => some acc
  | '_' :: c :: cs => if c.isDigit then numeralValue (10 * acc + (c.toNat - 48)) cs else Option.none
  | c :: cs => if c.isDigit then numeralValue (10 * acc + (c.toNat - 48)) cs else Option.none

/-- The value of a base-10 numeral, which starts with a digit. -/
def digitsValue : List Char → Option ℕ
  | c :: cs => if c.isDigit then numeralValue (c.toNat - 48) cs else Option.none
  | [] => Option.none

/-- `int(s)`: whitespace around, a sign, and a base-10 numeral; `none` where it raises
`ValueError`. -/
def pyIntOfStr (s : String) : Option ℤ :=
  match ((s.data.map intChar).dropWhile isAsciiSpace).reverse.dropWhile isAsciiSpace |>.reverse with
  | '-' :: cs => (digitsValue cs).map fun n => -(n : ℤ)
  | '+' :: cs => (digitsValue cs).map fun n => (n : ℤ)
  | cs => (digitsValue cs).map fun n => (n : ℤ)

namespace PyObj

/-- The int an object equals, for `bool`, `int` and `IntEnum` members. -/
def asInt? : PyObj → Option ℤ
  | .bool b => some (if b then 1 else 0)
  | .int n => some n
  | .member (.int _ _ n) => some n
  | _ => Option.none

/-- The string an object equals, for `str` and the members of an `Enum` with `str` mixed in. -/
def asStr? : PyObj → Option String
  | .str s | .member (.str _ _ s) => some s
  | _ => Option.none

/-- `isinstance(x, str)`. -/
def isStr (x : PyObj) : Bool := x.asStr?.isSome

/-- `isinstance(x, int)`. -/
def isInt (x : PyObj) : Bool := x.asInt?.isSome

/-- `x.isdigit()` for a string `x`. -/
def isDigitStr (x : PyObj) : Bool := (x.asStr?.map strIsDigit).getD false

/-- `bool(x)`; a member with a mixed-in type is true as its value is. -/
def truthy : PyObj → Bool
  | .none => false
  | .bool b => b
  | .int n => n != 0
  | .str s => !s.isEmpty
  | .member (.plain ..) => true
  | .member (.int _ _ n) => n != 0
  | .member (.str _ _ s) => !s.isEmpty
  | .other _ t => t

/-- `str(x)`. -/
def pyStr : PyObj → String
  | .none => "None"
  | .bool b => if b then "True" else "False"
  | .int n => toString n
  | .str s => s
  | .member (.plain c n _) | .member (.int c n _) | .member (.str c n _) => c ++ "." ++ n
  | .other r _ => r

end PyObj

/-- `x == y`: plain members by identity, strings and `str` members by their strings, and ints,
bools and `IntEnum` members by their ints. -/
def pyEq : PyObj → PyObj → Bool
  | .none, .none => true
  | .member (.plain c n _), .member (.plain c' n' _) => c == c' && n == n'
  | x, y => match x.asStr?, y.asStr? with
    | some a, some b => a == b
    | _, _ => match x.asInt?, y.asInt? with
      | some a, some b => a == b
      | _, _ => false

/-- `x in l`. -/
def pyIn (x : PyObj) (l : List PyObj) : Bool := l.any (pyEq x)

/-- `int(x)`: `ValueError` for a string that is not a numeral, `TypeError` for an object that
is neither a string nor an int. -/
def pyInt (x : PyObj) : Except PyError ℤ :=
  match x with
  | .str s | .member (.str _ _ s) => (pyIntOfStr s).elim (.error .valueError) .ok
  | x => match x.asInt? with
    | some n => .ok n
    | Option.none => .error .typeError

/-- `value.lower()` for a string value, the value itself otherwise: the entries of
`param_list`. -/
def EnumValue.lowered : EnumValue → PyObj
  | .int n => .int n
  | .str s => .str (strLower s)

@[simp] theorem pyEq_plain_lowered (c n : String) (v : EnumValue) (w : EnumValue) :
    pyEq (.member (.plain c n v)) w.lowered = false := by
  cases w <;> rfl

@[simp] theorem pyEq_intMember_int (c n : String) (v k : ℤ) :
    pyEq (.member (.int c n v)) (.int k) = (v == k) := rfl

/-- A member with `str` mixed in compares as its string. -/
theorem pyEq_strMember (c n v : String) (y : PyObj) : pyEq (.member (.str c n v)) y = pyEq (.str v) y := by
  rcases y with _ | _ | _ | _ | ⟨_ | _ | _⟩ | _ <;> rfl

/-- A `str`, or an object that is an int, never equals a plain `Enum` member. -/
theorem pyEq_plain_of_isStr_or_isInt {x : PyObj} (hx : x.isStr ∨ x.isInt) (c n : String)
    (v : EnumValue) : pyEq x (.member (.plain c n v)) = false := by
  rcases x with _ | _ | _ | _ | ⟨_ | _ | _⟩ | _ <;>
    simp_all [pyEq, PyObj.isStr, PyObj.isInt, PyObj.asInt?, PyObj.asStr?]

/-- `isdigit` accepts `²`, which `int()` rejects. -/
example : strIsDigit "²" = true ∧ pyInt (.str "²") = .error .valueError := ⟨rfl, rfl⟩

/-- `int()` reads other decimal digits and strips whitespace. -/
example : pyInt (.str " ٣_4 ") = .ok 34 ∧ pyInt (.str "-7") = .ok (-7) := ⟨rfl, rfl⟩

/-- The final sigma. -/
example : strLower "ΟΔΟΣ ΣΑ" = "οδος σα" := by decide

end Tmtccmd
