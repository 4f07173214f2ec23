/-
**Writing expressions.**

An expression is visited from the leaves up.  What a part yields is a value as long as no column
is touched, and text of a statement from there on; a value becomes a literal or a placeholder when
it meets such text.

Main definitions:

* `Fragment` — what a part yields;
* `Scope.operand`, `Scope.condition` — a part as operand, and as condition;
* `Scope.binary`, `Scope.unary`, `Scope.method`, `Scope.membership` — parts put together;
* `Scope.visit` — **the visit of an expression**;
* `Scope.predicate`, `Scope.projection` — the text of a condition, and of any other expression.
-/

import ModelSql.Dialect.Functions
import ModelSql.Expr
import ModelSql.Query.Binding
import ModelSql.Query.Fold
import ModelSql.Query.Parentheses
import ModelSql.Value.Arithmetic

set_option autoImplicit false

namespace ModelSql

/-! ### Parts -/

/-- What a part of an expression yields: a value, text, or a column of some type. -/
inductive Fragment
  | value (v : Value)
  | sql (text : String)
  | column (text : String) (type : FieldType)

namespace Fragment

/-- The type of a column. -/
def type? : Fragment → Option FieldType
  | column _ type => some type
  | _ => none

/-- Whether the part is known to be a text. -/
def isText : Fragment → Bool
  | value (.text _) => true
  | column _ .string => true
  | _ => false

/-- The value of a part without columns. -/
def value? : Fragment → Option Value
  | value v => some v
  | _ => none

/-- Whether the part is the value null. -/
def isNull : Fragment → Bool
  | value .null => true
  | _ => false

end Fragment

namespace Scope

/-- A part as an operand beside something of the given type. -/
def operand (s : Scope) (hint : Option FieldType) : Fragment → Compile String
  | .value v => s.bind hint v
  | .sql text => return text
  | .column text _ => return text

/-- Parts as operands, in order. -/
def operands (s : Scope) : List Fragment → Compile (List String)
  | [] => return []
  | p :: ps => do
    let text ← s.operand none p
    let texts ← s.operands ps
    return text :: texts

/-- A part as a condition.  A column of truth values is compared with the true one; null is no
condition that holds. -/
def condition (s : Scope) : Fragment → Compile String
  | .value (.bool b) => return if b then "1=1" else "1=0"
  | .value .null => return "1=0"
  | .column text .bool => do
    let truth ← s.bind (some .bool) (.bool true)
    return text ++ " = " ++ truth
  | p => s.operand none p

/-- Two parts as operands, each beside the type of the other. -/
def operandPair (s : Scope) (l r : Fragment) : Compile (String × String) := do
  let left ← s.operand r.type? l
  let right ← s.operand l.type? r
  return (left, right)

/-! ### Operators -/

/-- The test whether a part is null, or is not. -/
def nullTest (s : Scope) (op : BinaryOp) (p : Fragment) : Compile String := do
  let text ← s.operand none p
  return "(" ++ text ++ (if op = .eq then " IS NULL" else " IS NOT NULL") ++ ")"

/-- An operator between two parts of which one is no value. -/
def binaryText (s : Scope) (op : BinaryOp) (l r : Fragment) : Compile String :=
  if op.isLogical then do
    let left ← s.condition l
    let right ← s.condition r
    return Dialect.infixText left op.sign right
  else if (op = .eq ∨ op = .ne) ∧ (l.isNull || r.isNull) then
    s.nullTest op (if l.isNull then r else l)
  else do
    let (left, right) ← s.operandPair l r
    return match op with
      | .add =>
        if l.isText || r.isText then s.dialect.concat left right
        else Dialect.infixText left op.sign right
      | .mod => s.dialect.modulo left right
      | .coalesce => s.dialect.coalesce left right
      | op =>
        if op.isBitwise then s.dialect.bitwise op left right
        else Dialect.infixText left op.sign right

/-- **An operator between two parts**; between two values it is computed. -/
def binary (s : Scope) (op : BinaryOp) (l r : Fragment) : Compile Fragment :=
  match l, r with
  | .value a, .value b => do
    let v ← outcome (Value.binary op a b)
    return .value v
  | l, r => do
    let text ← s.binaryText op l r
    return .sql text

/-- **An operator before a part**; before a value it is computed. -/
def unary (s : Scope) (op : UnaryOp) (p : Fragment) : Compile Fragment :=
  match op, p with
  | op, .value v => do
    let w ← outcome (Value.unary op v)
    return .value w
  | .not, p => do
    let text ← s.condition p
    return .sql ("NOT " ++ wrap text)
  | .neg, .column text _ => return .sql ("-" ++ text)
  | .neg, p => do
    let text ← s.operand none p
    return .sql ("-" ++ wrap text)

/-! ### Membership and methods -/

/-- The test whether an operand is one of the values, each in the form that its column stores. -/
def membership (s : Scope) (target : String) (hint : Option FieldType) (values : Value) :
    Compile String :=
  match values.flatten with
  | [] => return target ++ " IN (NULL)"
  | items => do
    let texts ← s.bindAll hint (items.map (coerce hint))
    return target ++ " IN (" ++ Text.joinWith "," texts ++ ")"

/-- The test whether a text matches the first argument with the given texts around it, in upper
case. -/
def like (s : Scope) (m : StringMethod) (sql before after : String) (args : List Value) :
    Compile String :=
  match args with
  | [] => fail (.oneArgument m)
  | v :: _ => do
    let pattern ← s.bind none (.text (before ++ Text.upper v.toText ++ after))
    return s.dialect.upper sql ++ " LIKE " ++ pattern

/-- A part of a text, from a position counted from zero.  Statements count from one: the position is written
one greater, and the sum has no bound here, where 64 bits have no room for the one of the last position. -/
def substringText (s : Scope) (sql : String) (args : List Value) : Except Error String :=
  match args.head?.bind Value.toInt? with
  | none => .error .startNotInteger
  | some start =>
    match args[1]? with
    | none => .ok (s.dialect.substring sql (start.toInt + 1) none)
    | some v =>
      match v.toInt? with
      | none => .error .lengthNotInteger
      | some length => .ok (s.dialect.substring sql (start.toInt + 1) (some length.toInt))

/-- A method of a text in a statement. -/
def methodText (s : Scope) (m : StringMethod) (sql : String) (args : List Value) :
    Compile String :=
  match m with
  | .trim => return s.dialect.trim sql
  | .trimStart => return s.dialect.trimStart sql
  | .trimEnd => return s.dialect.trimEnd sql
  | .toUpper => return s.dialect.upper sql
  | .toLower => return s.dialect.lower sql
  | .startsWith => s.like m sql "" "%" args
  | .endsWith => s.like m sql "%" "" args
  | .contains => s.like m sql "%" "%" args
  | .substring => outcome (s.substringText sql args)

/-- Whether a collection has an item; of several arguments the last one counts. -/
def collectionContains (s : Scope) (items : List Value) (values : List Value)
    (texts : List Fragment) : Compile Fragment :=
  match values.getLast?, texts.getLast? with
  | some item, none => return .value (.bool ((Value.list items).flatten.any (·.looseEq item)))
  | none, some p => do
    let target ← s.operand none p
    let text ← s.membership target p.type? (.list items)
    return .sql text
  | _, _ => fail .oneItem

/-- **A method of a part**; on a value it is computed. -/
def method (s : Scope) (m : StringMethod) (target : Fragment) (args : List Fragment) :
    Compile Fragment :=
  let values := args.filterMap Fragment.value?
  let texts := args.filter (·.value?.isNone)
  match m, target with
  | .contains, .value (.list items) => s.collectionContains items values texts
  | m, .value v =>
    if texts.isEmpty then do
      let w ← outcome (Fold.method m v values)
      return .value w
    else fail (.untranslatable (.constantTarget m))
  | m, p =>
    if texts.isEmpty then do
      let sql ← s.operand none p
      let text ← s.methodText m sql values
      return .sql text
    else fail (.untranslatable (.columnArgument m))

/-- The parts of a list, one after the other; values alone make a list of values. -/
def listOf (s : Scope) (parts : List Fragment) : Compile Fragment :=
  if parts.all (·.value?.isSome) then return .value (.list (parts.filterMap Fragment.value?))
  else do
    let texts ← s.operands parts
    return .sql (Text.joinWith "," texts)

/-! ### The visit -/

mutual

/-- **The visit of an expression.** -/
def visit (s : Scope) : Expr → Compile Fragment
  | .column name => do
    let f ← outcome (s.field name)
    return .column (s.column f) f.type
  | .value v => return .value v
  | .deferred r => do
    let v ← outcome r
    return .value v
  | .binary op left right => do
    let l ← visit s left
    let r ← visit s right
    s.binary op l r
  | .unary op e => do
    let p ← visit s e
    s.unary op p
  | .convert e => visit s e
  | .convertWith f e => do
    let p ← visit s e
    match p with
    | .value v =>
      let w ← outcome (f.apply [v])
      return .value w
    | _ => fail (.untranslatable (.conversion f.name))
  | .method m target args => do
    let t ← visit s target
    let ps ← visitAll s args
    s.method m t ps
  | .call f args => do
    let vs ← visitValues s f args
    let v ← outcome (f.apply vs)
    return .value v
  | .inList target values => do
    let t ← visit s target
    let left ← s.operand none t
    let p ← visit s values
    match p with
    | .value v =>
      let text ← s.membership left t.type? v
      return .sql text
    | p =>
      let right ← s.operand none p
      return .sql (left ++ " IN (" ++ right ++ ")")
  | .desc e => do
    let p ← visit s e
    let text ← s.operand none p
    return .sql (text ++ " DESC")
  | .named e name => do
    let p ← visit s e
    let text ← s.operand none p
    return .sql (text ++ " AS " ++ s.dialect.quoteName name)
  | .aggregate f e => do
    let p ← visit s e
    let text ← s.operand none p
    return .sql (Dialect.apply f.sql text)
  | .countAll => return .sql "COUNT(*)"
  | .list items => do
    let ps ← visitAll s items
    s.listOf ps

/-- The visits of expressions, in order. -/
def visitAll (s : Scope) : List Expr → Compile (List Fragment)
  | [] => return []
  | e :: es => do
    let p ← visit s e
    let ps ← visitAll s es
    return p :: ps

/-- The visits of the arguments of a function of the host, which have to be values. -/
def visitValues (s : Scope) (f : HostFunction) : List Expr → Compile (List Value)
  | [] => return []
  | e :: es => do
    let p ← visit s e
    match p with
    | .value v =>
      let vs ← visitValues s f es
      return v :: vs
    | _ => fail (.untranslatable (.function f.name))

end

/-! ### Clauses -/

/-- **The text of a condition.** -/
def predicate (s : Scope) (e : Expr) : Compile String := do
  let p ← s.visit e
  let text ← s.condition p
  return stripOuter text

/-- **The text of a projection**, of a grouping, or of a sort key. -/
def projection (s : Scope) (e : Expr) : Compile String := do
  let p ← s.visit e
  let text ← s.operand none p
  return stripOuter text

end Scope

end ModelSql
