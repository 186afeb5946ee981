import NameQuery.Sql.Syntax
import NameQuery.Sql.Token

/-!
# The grammar of expressions

How an expression is read from tokens, and at which token a reading stops (`Rejection`): the first
one with which no statement goes on. Operators bind in the order of `PairOp.rank`, and equal ones
from the left. A word with a meaning is taken for a name only where its meaning does not fit.

The height of an expression is counted while it is read, since a tree of more than a thousand levels
is refused (`Tall`). The fuel of a reading is a number of steps; a token takes at most four.
-/

set_option autoImplicit false

namespace NameQuery.Sql

/-- Why a text is no statement. -/
inductive Rejection
  | near (text : String)
  /-- A text that is no token. -/
  | unrecognized (text : String)
  /-- The text ends too early. -/
  | incomplete
  /-- An expression of too many levels. -/
  | tooTall
  /-- More hexadecimal digits than 64 bits hold. -/
  | hexTooBig (text : String)
  | tooManyParameters
  /-- A parameter with a number that no parameter has. -/
  | parameterNumber
  /-- RAISE outside of what the database does by itself. -/
  | misplacedRaise
  /-- A clause that counts for statements put together, before the last of them. -/
  | earlyClause (clause : String) (op : CompoundOp)
  | unknownJoin (words : List String)
  /-- A condition or columns of a join after the first source. -/
  | noJoin (clause : String)
deriving DecidableEq

namespace Rejection

def message : Rejection → String
  | .near text => s!"near \"{text}\": syntax error"
  | .unrecognized text => s!"unrecognized token: \"{text}\""
  | .incomplete => "incomplete input"
  | .tooTall => "Expression tree is too large (maximum depth 1000)"
  | .hexTooBig text => s!"hex literal too big: {text}"
  | .tooManyParameters => "too many SQL variables"
  | .parameterNumber => "variable number must be between ?1 and ?32766"
  | .misplacedRaise => "RAISE() may only be used within a trigger-program"
  | .earlyClause clause op => s!"{clause} clause should come after {op.text} not before"
  | .unknownJoin words => "unknown join type: " ++ " ".intercalate words
  | .noJoin clause => s!"a JOIN clause is required before {clause}"

/-- The rejection of some tokens at their first one. -/
def at_ : List Token → Rejection
  | [] => .incomplete
  | t :: _ =>
    if t.kind = .illegal then .unrecognized (String.ofList t.text) else .near (String.ofList t.text)

end Rejection

/-- A reading of tokens: what was read, and the tokens that are left. -/
abbrev Reading (α : Type) := List Token → Except Rejection (α × List Token)

namespace Reading

/-- The first token reads as something. -/
def opens (what : String) : List Token → Bool
  | [] => false
  | t :: _ => t.reads what

/-- A token that has to be there. -/
def expect (what : String) (ts : List Token) : Except Rejection (List Token) :=
  match ts with
  | t :: rest => if t.reads what then .ok rest else .error (.at_ ts)
  | [] => .error .incomplete

/-- A name that has to be there. A string is a name too. -/
def name : Reading String := fun ts =>
  match ts with
  | t :: rest => if t.isName || t.kind = .string then .ok (t.plain, rest) else .error (.at_ ts)
  | [] => .error .incomplete

end Reading

/-- The operator of a token between two expressions, with how strongly it binds. -/
def PairOp.ofToken? (t : Token) : Option (PairOp × Nat) :=
  if t.reads "OR" then some (.or, 1)
  else if t.reads "AND" then some (.and, 2)
  else if t.reads "=" || t.reads "==" then some (.equal, 4)
  else if t.reads "<>" || t.reads "!=" then some (.unequal, 4)
  else if t.reads "LIKE" then some (.like, 4)
  else if t.reads "<" then some (.less, 5)
  else if t.reads "<=" then some (.atMost, 5)
  else if t.reads ">" then some (.greater, 5)
  else if t.reads ">=" then some (.atLeast, 5)
  else if t.reads "+" then some (.add, 7)
  else if t.reads "-" then some (.subtract, 7)
  else if t.reads "*" then some (.multiply, 8)
  else if t.reads "/" then some (.divide, 8)
  else if t.reads "%" then some (.remainder, 8)
  else if t.reads "||" then some (.concat, 9)
  else none

/-- How strongly AND binds. -/
def PairOp.andRank : Nat := 2

/-- How strongly NOT binds what follows it. -/
def SignOp.notRank : Nat := 3

/-- How strongly comparisons for equality bind. -/
def PairOp.equalityRank : Nat := 4

/-- An expression with its height. -/
structure Tall where
  expr : Expr
  height : Nat

namespace Tall

def leaf (e : Expr) : Tall := ⟨e, 1⟩

/-- An expression with parts of the given heights, unless it is too tall. -/
def above (e : Expr) (heights : List Nat) : Except Rejection Tall :=
  let height := heights.foldl max 0 + 1
  if 1000 < height then .error .tooTall
  else .ok ⟨e, height⟩

def pair (op : PairOp) (a b : Tall) : Except Rejection Tall :=
  above (.paired op a.expr b.expr) [a.height, b.height]

/-- The opposite of an expression where it is asked for. -/
def negatedIf (negated : Bool) (e : Tall) : Except Rejection Tall :=
  if negated then above (.signed .not e.expr) [e.height] else .ok e

def between (negated : Bool) (x low high : Tall) : Except Rejection Tall := do
  let both := Expr.paired .and (.paired .atLeast x.expr low.expr) (.paired .atMost x.expr high.expr)
  let e ← above both [x.height, low.height, high.height]
  e.negatedIf negated

/-- An expression that is equal to one of a list. The members do not count as columns. -/
def among (negated : Bool) (x : Tall) (members : List Tall) : Except Rejection Tall := do
  let found := members.foldl (fun (e : Expr) m =>
    .paired .or e (.paired .equal x.expr (.signed .plus m.expr))) (.value (.integer 0))
  let e ← above found (x.height :: members.map Tall.height)
  e.negatedIf negated

/-- Branches, each a condition or a value of the operand, and what holds elsewhere. -/
def branches (operand? : Option Tall) (whens : List (Tall × Tall)) (otherwise : Tall) :
    Except Rejection Tall :=
  let chosen := whens.foldr (fun (w, v) (e : Expr) =>
    let condition := match operand? with
      | some x => .paired .equal x.expr w.expr
      | none => w.expr
    .choice condition v.expr e) otherwise.expr
  above chosen (otherwise.height :: (operand?.map Tall.height).getD 0 ::
    whens.flatMap fun (w, v) => [w.height, v.height])

/-- The number that a token writes: hexadecimal digits are the bits of a whole number of 64 bits. -/
def number (text : List Char) : Except Rejection Tall :=
  match text with
  | '0' :: x :: digits =>
    if x = 'x' || x = 'X' then
      let significant := digits.dropWhile (· = '0')
      if 16 < significant.length then
        .error (.hexTooBig (String.ofList text))
      else
        let n : Nat := (numberIn? 16 significant).getD 0
        .ok (leaf (.value (.integer ((n : Int).bmod 18_446_744_073_709_551_616))))
    else .ok (leaf (.value ((Cell.numberOf? (String.ofList text)).getD .null)))
  | text => .ok (leaf (.value ((Cell.numberOf? (String.ofList text)).getD .null)))

/-- An expression that one token makes up. There is no clock: a fixed time stands for the present. -/
def ofToken? (t : Token) : Option (Except Rejection Tall) :=
  match t.kind with
  | .integer | .float => some (number t.text)
  | .string => some (.ok (leaf (.value (.text t.plain))))
  | .blob => some (.ok (leaf (.value .null)))
  | .parameter n =>
    some (if n = 0 || 32_766 < n then
      .error (if t.text = ['?'] then .tooManyParameters else .parameterNumber)
      else .ok (leaf (.parameter n)))
  | _ =>
    if t.reads "NULL" then some (.ok (leaf (.value .null)))
    else if t.reads "CURRENT_DATE" then some (.ok (leaf (.value (.text "2000-01-01"))))
    else if t.reads "CURRENT_TIME" then some (.ok (leaf (.value (.text "12:00:00"))))
    else if t.reads "CURRENT_TIMESTAMP" then some (.ok (leaf (.value (.text "2000-01-01 12:00:00"))))
    else none

end Tall

namespace Reading

/-- The rest of a name after its first part: up to two more parts after dots. -/
def qualified (ts : List Token) (first : Token) : Except Rejection (Tall × List Token) := do
  let some ts₁ := if opens "." ts then some (ts.drop 1) else none
    | return (.leaf (.name [first.plain] (first.kind = .doubleQuoted)), ts)
  let (second, ts) ← name ts₁
  let some ts₂ := if opens "." ts then some (ts.drop 1) else none
    | return (⟨.name [first.plain, second] false, 2⟩, ts)
  let (third, ts) ← name ts₂
  return (⟨.name [first.plain, second, third] false, 3⟩, ts)

def typeWords : List Token → String × List Token
  | [] => ("", [])
  | t :: ts =>
    if t.isName || t.kind = .string then
      let (words, rest) := typeWords ts
      (t.plain ++ " " ++ words, rest)
    else ("", t :: ts)

/-- A number of a type, with a sign or without. -/
def size (ts : List Token) : Except Rejection (List Token) :=
  let ts := if opens "+" ts || opens "-" ts then ts.drop 1 else ts
  match ts with
  | t :: rest => if t.kind = .integer || t.kind = .float then .ok rest else .error (.at_ ts)
  | [] => .error .incomplete

/-- A type: its words, and one number or two in brackets after them. -/
def type : Reading String := fun ts => do
  let (words, ts) := typeWords ts
  if words.isEmpty || !opens "(" ts then return (words, ts)
  else
    let ts ← size (ts.drop 1)
    let ts ← if opens "," ts then size (ts.drop 1) else pure ts
    return (words, ← expect ")" ts)

mutual
/-- An expression whose operators bind at least as strongly as `rank`. -/
def expr : Nat → Nat → Reading Tall
  | 0, _, ts => .error (.at_ ts)
  | fuel + 1, rank, ts => do
    let (a, ts) ← operand fuel ts
    further fuel rank a ts

/-- An expression without operators after it. -/
def operand : Nat → Reading Tall
  | 0, ts => .error (.at_ ts)
  | _, [] => .error .incomplete
  | fuel + 1, t :: ts =>
    if t.reads "NOT" then do
      let (e, ts) ← expr fuel SignOp.notRank ts
      return (← Tall.above (.signed .not e.expr) [e.height], ts)
    else if t.reads "-" then do
      let (e, ts) ← operand fuel ts
      return (← Tall.above (.signed .minus e.expr) [e.height], ts)
    else if t.reads "+" then do
      let (e, ts) ← operand fuel ts
      return (← Tall.above (.signed .plus e.expr) [e.height], ts)
    else if t.reads "(" then do
      let (e, ts) ← expr fuel 0 ts
      return (e, ← expect ")" ts)
    else if t.reads "CASE" then do
      let (operand?, ts) ← if opens "WHEN" ts then pure (none, ts) else do
        let (e, ts) ← expr fuel 0 ts
        pure (some e, ts)
      let (whens, ts) ← branches fuel ts
      let (otherwise, ts) ← if opens "ELSE" ts then expr fuel 0 (ts.drop 1)
        else pure (⟨.value .null, 0⟩, ts)
      let ts ← expect "END" ts
      return (← Tall.branches operand? whens otherwise, ts)
    else if t.reads "CAST" then do
      let ts ← expect "(" ts
      let (e, ts) ← expr fuel 0 ts
      let ts ← expect "AS" ts
      let (type, ts) ← type ts
      let ts ← expect ")" ts
      return (← Tall.above (.converted e.expr type) [e.height], ts)
    else if t.reads "EXISTS" then do
      .error (.at_ (← expect "(" ts))
    else if t.reads "RAISE" then do
      let _ ← expect "(" ts
      .error .misplacedRaise
    else
      match Tall.ofToken? t with
      | some leaf => do return (← leaf, ts)
      | none =>
        if !t.isName then .error (.at_ (t :: ts))
        else if opens "(" ts then do
          let ts := ts.drop 1
          let (arguments, ts) ← if opens "*" ts then pure ([], ts.drop 1)
            else if opens ")" ts then pure ([], ts)
            else exprs fuel ts
          return (← Tall.above (.call t.plain) (arguments.map Tall.height), ← expect ")" ts)
        else qualified ts t

/-- An expression with the operators after it that bind at least as strongly as `rank`. -/
def further : Nat → Nat → Tall → Reading Tall
  | 0, _, _, ts => .error (.at_ ts)
  | _, _, a, [] => .ok (a, [])
  | fuel + 1, rank, a, t :: ts =>
    match PairOp.ofToken? t with
    | some (op, opRank) =>
      if opRank < rank then .ok (a, t :: ts)
      else do
        let (b, ts) ← expr fuel (opRank + 1) ts
        further fuel rank (← Tall.pair op a b) ts
    | none =>
      if PairOp.equalityRank < rank then .ok (a, t :: ts)
      else if t.reads "ISNULL" then do
        further fuel rank (← Tall.pair .same a ⟨.value .null, 0⟩) ts
      else if t.reads "NOTNULL" then do
        further fuel rank (← Tall.pair .different a ⟨.value .null, 0⟩) ts
      else if t.reads "IS" then do
        let (op, ts) : PairOp × List Token :=
          if opens "NOT" ts then (.different, ts.drop 1) else (.same, ts)
        let (b, ts) ← expr fuel (PairOp.equalityRank + 1) ts
        further fuel rank (← Tall.pair op a b) ts
      else if t.reads "NOT" then do
        if opens "NULL" ts then
          further fuel rank (← Tall.pair .different a ⟨.value .null, 0⟩) (ts.drop 1)
        else
          let (e, ts) ← relation fuel true a ts
          further fuel rank e ts
      else if t.reads "BETWEEN" || t.reads "IN" then do
        let (e, ts) ← relation fuel false a (t :: ts)
        further fuel rank e ts
      else .ok (a, t :: ts)

/-- A relation of an expression with others that NOT may stand before. -/
def relation : Nat → Bool → Tall → Reading Tall
  | 0, _, _, ts => .error (.at_ ts)
  | _, _, _, [] => .error .incomplete
  | fuel + 1, negated, a, t :: ts =>
    if t.reads "BETWEEN" then do
      let (low, ts) ← expr fuel SignOp.notRank ts
      let (low, ts) ← alternatives fuel low ts
      let ts ← expect "AND" ts
      let (high, ts) ← expr fuel (PairOp.equalityRank + 1) ts
      return (← Tall.between negated a low high, ts)
    else if t.reads "IN" then do
      let ts ← expect "(" ts
      let (members, ts) ← if opens ")" ts then pure ([], ts) else exprs fuel ts
      return (← Tall.among negated a members, ← expect ")" ts)
    else if t.reads "LIKE" then do
      let (b, ts) ← expr fuel (PairOp.equalityRank + 1) ts
      return (← (← Tall.pair .like a b).negatedIf negated, ts)
    else .error (.at_ (t :: ts))

/-- An expression with others after OR. An AND behind the first one does not belong to it. -/
def alternatives : Nat → Tall → Reading Tall
  | 0, _, ts => .error (.at_ ts)
  | fuel + 1, a, ts =>
    if opens "OR" ts then do
      let (b, ts) ← expr fuel PairOp.andRank (ts.drop 1)
      alternatives fuel (← Tall.pair .or a b) ts
    else .ok (a, ts)

def exprs : Nat → Reading (List Tall)
  | 0, ts => .error (.at_ ts)
  | fuel + 1, ts => do
    let (e, ts) ← expr fuel 0 ts
    if opens "," ts then
      let (es, ts) ← exprs fuel (ts.drop 1)
      return (e :: es, ts)
    else return ([e], ts)

def branches : Nat → Reading (List (Tall × Tall))
  | 0, ts => .error (.at_ ts)
  | fuel + 1, ts => do
    let ts ← expect "WHEN" ts
    let (condition, ts) ← expr fuel 0 ts
    let ts ← expect "THEN" ts
    let (value, ts) ← expr fuel 0 ts
    if opens "WHEN" ts then
      let (others, ts) ← branches fuel ts
      return ((condition, value) :: others, ts)
    else return ([(condition, value)], ts)
end

/-- The steps that a reading of some tokens takes at most. -/
def steps (ts : List Token) : Nat := 4 * ts.length + 4

end Reading

end NameQuery.Sql
