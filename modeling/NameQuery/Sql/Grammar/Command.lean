import NameQuery.Sql.Grammar.Expression

/-!
# The grammar of statements

How a statement is read from tokens: a SELECT statement with its sources and clauses, several of them
put together, and the statements that drop a table or delete rows. A statement ends at a semicolon or
with the text (`Reading.command`).

After a table its other name may follow without AS; a word that joins tables is no such name. Of the
statements that are put together only the last one has an order and a limit, which count for the
whole.
-/

set_option autoImplicit false

namespace NameQuery.Sql

namespace Select

def order : Select → List OrderTerm
  | .simple _ _ _ _ order _ | .compound _ _ _ order _ => order

def paging? : Select → Option Paging
  | .simple _ _ _ _ _ paging? | .compound _ _ _ _ paging? => paging?

/-- A statement without its order and its paging. -/
def bare : Select → Select
  | .simple distinct items source filter? _ _ => .simple distinct items source filter? [] none
  | .compound op a b _ _ => .compound op a b [] none

/-- A statement with further ones, each after its operation. Those that are not the last one have
neither an order nor a paging. -/
def compounds (s : Select) : List (CompoundOp × Select) → Except Rejection Select
  | [] => .ok s
  | (op, next) :: others =>
    if !s.order.isEmpty then
      .error (.earlyClause "ORDER BY" op)
    else if s.paging?.isSome then
      .error (.earlyClause "LIMIT" op)
    else compounds (.compound op s next.bare next.order next.paging?) others

end Select

namespace JoinKind

/-- The join that the words before JOIN say. -/
def ofWords (words : List String) : Except Rejection JoinKind :=
  let has := fun word => (words.map fun w => capitals w.toList).contains word
  let outer := has "LEFT" || has "RIGHT" || has "FULL"
  if words.any (fun w => !joinWords.contains (capitals w.toList)) ||
      (has "OUTER" && !outer) || ((has "INNER" || has "CROSS") && (outer || has "OUTER")) then
    .error (.unknownJoin words)
  else
    .ok ⟨has "NATURAL", has "LEFT" || has "FULL", has "RIGHT" || has "FULL"⟩

end JoinKind

/-- A source in brackets with the name after them, which takes the place of the name inside. -/
def Source.bracketed (alias? : Option String) : Source → Source
  | .table path _ .called => .table path alias? .called
  | .table path _ _ => .table path alias? .plain
  | .select s _ => .select s alias?
  | .group s _ => .group s alias?
  | s => .group s alias?

namespace Reading

/-- The other name after AS, or without it where a name stands that joins no tables. -/
def alias? : Reading (Option String) := fun ts =>
  match ts with
  | [] => .ok (none, [])
  | t :: rest =>
    if t.reads "AS" then (name rest).map fun (a, ts) => (some a, ts)
    else if (t.isName || t.kind = .string) && !t.isWordOf ("INDEXED" :: joinWords) then
      .ok (some t.plain, rest)
    else .ok (none, ts)

def path : Reading (List String) := fun ts => do
  let (first, ts) ← name ts
  if opens "." ts then
    let (second, ts) ← name (ts.drop 1)
    return ([first, second], ts)
  else return ([first], ts)

/-- Names between commas. The fuel is the number of tokens. -/
def names : Nat → Reading (List String)
  | 0, ts => .error (.at_ ts)
  | fuel + 1, ts => do
    let (n, ts) ← name ts
    if opens "," ts then
      let (ns, ts) ← names fuel (ts.drop 1)
      return (n :: ns, ts)
    else return ([n], ts)

/-- What may follow the name of a table and its other name. -/
def indexed : Reading TableUse := fun ts =>
  if opens "INDEXED" ts then do
    let ts ← expect "BY" (ts.drop 1)
    let (index, ts) ← name ts
    return (.indexed index, ts)
  else if opens "NOT" ts then do
    return (.plain, ← expect "INDEXED" (ts.drop 1))
  else .ok (.plain, ts)

/-- The words and the comma or JOIN between two sources, where there are any. -/
def join? : Reading (Option JoinKind) := fun ts =>
  match ts with
  | [] => .ok (none, [])
  | t :: rest =>
    if t.reads "," || t.reads "JOIN" then .ok (some ⟨false, false, false⟩, rest)
    else if t.isWordOf joinWords then
      let others := (rest.takeWhile fun t => !t.reads "JOIN" && (t.isName || t.kind = .string)).take 2
      do
        let ts ← expect "JOIN" (rest.drop others.length)
        let kind ← JoinKind.ofWords ((t :: others).map fun t => String.ofList t.text)
        return (some kind, ts)
    else .ok (none, ts)

def joinCondition : Reading (Option Expr × List String) := fun ts =>
  if opens "ON" ts then do
    let (e, ts) ← expr (steps ts) 0 (ts.drop 1)
    return ((some e.expr, []), ts)
  else if opens "USING" ts then do
    let ts ← expect "(" (ts.drop 1)
    let (ns, ts) ← names ts.length ts
    return ((none, ns), ← expect ")" ts)
  else .ok ((none, []), ts)

/-- The text of the tokens between two places, without the blanks around it. -/
def between (before after : List Token) : String :=
  match before.take (before.length - after.length) with
  | [] => ""
  | t :: ts => String.ofList (t.text ++ ts.flatMap fun t => t.before ++ t.text)

def item : Reading Item := fun ts =>
  match ts with
  | t :: dot :: star :: rest =>
    if t.reads "*" then .ok (.all, dot :: star :: rest)
    else if (t.isName || t.kind = .string) && dot.reads "." && star.reads "*" then
      .ok (.allOf t.plain, rest)
    else expression ts
  | t :: rest => if t.reads "*" then .ok (.all, rest) else expression ts
  | [] => .error .incomplete
where
  /-- A result column with its other name. -/
  expression (ts : List Token) : Except Rejection (Item × List Token) := do
    let (e, rest) ← expr (steps ts) 0 ts
    let (a?, after) ← alias? rest
    return (.expr e.expr a? (between ts rest), after)

/-- What is selected, between commas. The fuel is the number of tokens. -/
def items : Nat → Reading (List Item)
  | 0, ts => .error (.at_ ts)
  | fuel + 1, ts => do
    let (i, ts) ← item ts
    if opens "," ts then
      let (is, ts) ← items fuel (ts.drop 1)
      return (i :: is, ts)
    else return ([i], ts)

/-- A clause of one expression, where it is there. -/
def clause? (word : String) : Reading (Option Expr) := fun ts =>
  if opens word ts then (expr (steps ts) 0 (ts.drop 1)).map fun (e, ts) => (some e.expr, ts)
  else .ok (none, ts)

/-- The terms of an order, between commas. The fuel is the number of tokens. -/
def orderTerms : Nat → Reading (List OrderTerm)
  | 0, ts => .error (.at_ ts)
  | fuel + 1, ts => do
    let (e, ts) ← expr (steps ts) 0 ts
    let (descending, ts) :=
      if opens "DESC" ts then (true, ts.drop 1)
      else if opens "ASC" ts then (false, ts.drop 1) else (false, ts)
    if opens "," ts then
      let (others, ts) ← orderTerms fuel (ts.drop 1)
      return (⟨e.expr, descending⟩ :: others, ts)
    else return ([⟨e.expr, descending⟩], ts)

def order : Reading (List OrderTerm) := fun ts =>
  if opens "ORDER" ts then do
    let ts ← expect "BY" (ts.drop 1)
    orderTerms ts.length ts
  else .ok ([], ts)

/-- A paging, where it is there. Before a comma the first number is the offset. -/
def paging? : Reading (Option Paging) := fun ts => do
  let (limit?, ts) ← clause? "LIMIT" ts
  match limit? with
  | none => return (none, ts)
  | some limit =>
    if opens "," ts then
      let (e, ts) ← expr (steps ts) 0 (ts.drop 1)
      return (some ⟨e.expr, some limit⟩, ts)
    else
      let (offset?, ts) ← clause? "OFFSET" ts
      return (some ⟨limit, offset?⟩, ts)

/-- The operation between two statements, where there is one. -/
def compoundOp? (ts : List Token) : Option (CompoundOp × List Token) :=
  if opens "UNION" ts then
    if opens "ALL" (ts.drop 1) then some (.unionAll, ts.drop 2) else some (.union, ts.drop 1)
  else if opens "EXCEPT" ts then some (.except, ts.drop 1)
  else if opens "INTERSECT" ts then some (.intersect, ts.drop 1)
  else none

mutual
def select : Nat → Reading Select
  | 0, ts => .error (.at_ ts)
  | fuel + 1, ts => do
    let (s, ts) ← simple fuel ts
    let (others, ts) ← compounds fuel ts
    return (← s.compounds others, ts)

/-- The further statements that are put together with one. -/
def compounds : Nat → Reading (List (CompoundOp × Select))
  | 0, ts => .error (.at_ ts)
  | fuel + 1, ts =>
    match compoundOp? ts with
    | none => .ok ([], ts)
    | some (op, ts) => do
      let (s, ts) ← simple fuel ts
      let (others, ts) ← compounds fuel ts
      return ((op, s) :: others, ts)

def simple : Nat → Reading Select
  | 0, ts => .error (.at_ ts)
  | fuel + 1, ts => do
    let ts ← expect "SELECT" ts
    let (distinct, ts) := if opens "DISTINCT" ts then (true, ts.drop 1)
      else if opens "ALL" ts then (false, ts.drop 1) else (false, ts)
    let (is, ts) ← items ts.length ts
    let (s, ts) ← if opens "FROM" ts then sources fuel (ts.drop 1) else pure (.nothing, ts)
    let (filter?, ts) ← clause? "WHERE" ts
    let (terms, ts) ← order ts
    let (page?, ts) ← paging? ts
    return (.simple distinct is s filter? terms page?, ts)

/-- Sources that are joined from the left. -/
def sources : Nat → Reading Source
  | 0, ts => .error (.at_ ts)
  | fuel + 1, ts => do
    let (s, ts) ← source fuel true ts
    let ((on?, using_), ts') ← joinCondition ts
    if on?.isSome || !using_.isEmpty then
      .error (.noJoin (if on?.isSome then "ON" else "USING"))
    else joined fuel s ts'

/-- Further sources after one. -/
def joined : Nat → Source → Reading Source
  | 0, _, ts => .error (.at_ ts)
  | fuel + 1, left, ts => do
    let (kind?, ts) ← join? ts
    match kind? with
    | none => return (left, ts)
    | some kind =>
      let (right, ts) ← source fuel false ts
      let ((on?, using_), ts) ← joinCondition ts
      joined fuel (.join left right kind on? using_) ts

/-- One source, the first one or another: a table, a statement in brackets, or sources in brackets. -/
def source : Nat → Bool → Reading Source
  | 0, _, ts => .error (.at_ ts)
  | fuel + 1, isFirst, ts =>
    if opens "(" ts then
      if opens "SELECT" (ts.drop 1) then do
        let (s, ts) ← select fuel (ts.drop 1)
        let ts ← expect ")" ts
        let (a?, ts) ← alias? ts
        return (.select s a?, ts)
      else do
        let (s, ts) ← sources fuel (ts.drop 1)
        let ts ← expect ")" ts
        let (a?, ts) ← alias? ts
        return (if isFirst && a?.isNone then s else s.bracketed a?, ts)
    else do
      let (p, ts) ← path ts
      if opens "(" ts then
        let (_, ts) ← if opens ")" (ts.drop 1) then pure ([], ts.drop 1)
          else exprs (steps ts) (ts.drop 1)
        let ts ← expect ")" ts
        let (a?, ts) ← alias? ts
        return (.table p a? .called, ts)
      else
        let (a?, ts) ← alias? ts
        let (use, ts) ← indexed ts
        return (.table p a? use, ts)
end

def drop : Reading Command := fun ts => do
  let ts ← expect "TABLE" ts
  let (ifExists, ts) ← if opens "IF" ts then do
      pure (true, ← expect "EXISTS" (ts.drop 1))
    else pure (false, ts)
  let (p, ts) ← path ts
  return (.drop p ifExists, ts)

def delete : Reading Command := fun ts => do
  let ts ← expect "FROM" ts
  let (p, ts) ← path ts
  let (filter?, ts) ← clause? "WHERE" ts
  return (.delete p filter?, ts)

/-- A statement up to the semicolon that ends it, and the tokens after that. -/
def command : Reading Command := fun ts => do
  if ts.isEmpty then return (.nothing, [])
  else if opens ";" ts then return (.nothing, ts.drop 1)
  else
    let (c, ts) ←
      if opens "DROP" ts then drop (ts.drop 1)
      else if opens "DELETE" ts then delete (ts.drop 1)
      else (select (steps ts) ts).map fun (s, ts) => (Command.select s, ts)
    match ts with
    | [] => return (c, [])
    | t :: rest => if t.reads ";" then return (c, rest) else throw (.at_ (t :: rest))

end Reading

end NameQuery.Sql
