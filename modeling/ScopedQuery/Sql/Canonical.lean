import ScopedQuery.Sql.Syntax
/-!
# The canonical text of syntax trees

* `Ident.written`, `ObjectName.written`, `Literal.written` and `TableAlias.written` write the
  leaves.
* `Expr.written`, `Query.written` and `Source.written` write trees, with one space between words and
  keywords in upper case.
-/

namespace ScopedQuery.Sql

/-! ### Leaves -/

/-- The inside of a quotation. A mark that stands alone is doubled; a pair of marks, and a mark
after a backslash, are written as they are. -/
def quoteMarks (mark last : Char) : List Char → List Char
  | [] => []
  | c :: cs =>
    if c = mark then
      if last = '\\' then c :: quoteMarks mark last cs
      else
        match cs with
        | [] => [mark, mark]
        | d :: ds =>
          if d = mark then mark :: mark :: quoteMarks mark mark ds
          else mark :: mark :: quoteMarks mark mark (d :: ds)
    else c :: quoteMarks mark c cs

/-- A text between quotation marks. -/
def inQuotes (mark : Char) (s : String) : String :=
  String.ofList (mark :: quoteMarks mark '\x00' s.toList ++ [mark])

def Ident.written (ident : Ident) : String :=
  match ident.quote with
  | none => ident.text
  | some mark => inQuotes mark ident.text

/-- Texts with a comma between them. -/
def commas (texts : List String) : String := String.intercalate ", " texts

def ObjectName.written (name : ObjectName) : String :=
  String.intercalate "." (name.map Ident.written)

def Ident.list (idents : List Ident) : String := commas (idents.map Ident.written)

def TableAlias.written (asName : TableAlias) : String :=
  asName.name.written ++
    if asName.columns.isEmpty then "" else " (" ++ Ident.list asName.columns ++ ")"

/-- An alias behind its table. -/
def TableAlias.suffix : Option TableAlias → String
  | none => ""
  | some asName => " AS " ++ asName.written

/-- A character of an `E` quotation. -/
def escapedChar (c : Char) : List Char :=
  match c with
  | '\'' => ['\\', '\'']
  | '\\' => ['\\', '\\']
  | '\n' => ['\\', 'n']
  | '\t' => ['\\', 't']
  | '\r' => ['\\', 'r']
  | _ => [c]

def Literal.written : Literal → String
  | .number digits long => if long then digits ++ "L" else digits
  | .text .single value => inQuotes '\'' value
  | .text .double value => inQuotes '"' value
  | .text .national value => "N'" ++ value ++ "'"
  | .text .escaped value => "E'" ++ String.ofList (value.toList.flatMap escapedChar) ++ "'"
  | .text .hex value => "X'" ++ value ++ "'"
  | .boolean true => "true"
  | .boolean false => "false"
  | .null => "NULL"
  | .placeholder name => name

def DataType.written : DataType → String
  | interval => "INTERVAL"
  | standard text => text
  | custom text => text

def BinaryOp.written : BinaryOp → String
  | or => "OR"
  | and => "AND"
  | xor => "XOR"
  | eq => "="
  | ne => "<>"
  | lt => "<"
  | gt => ">"
  | le => "<="
  | ge => ">="
  | nullSafeEq => "<=>"
  | plus => "+"
  | minus => "-"
  | times => "*"
  | divide => "/"
  | modulo => "%"
  | intDivide => "DIV"
  | concat => "||"
  | bitOr => "|"
  | bitXor => "^"
  | bitAnd => "&"
  | regexMatch => "~"
  | regexMatchFold => "~*"
  | regexDiffer => "!~"
  | regexDifferFold => "!~*"
  | arrow => "->"
  | longArrow => "->>"
  | hashArrow => "#>"
  | hashLongArrow => "#>>"
  | contains => "@>"
  | containedIn => "<@"
  | hashMinus => "#-"
  | atQuestion => "@?"
  | atAt => "@@"

def CastForm.written : CastForm → String
  | cast => "CAST"
  | tryCast => "TRY_CAST"
  | safeCast => "SAFE_CAST"

def JoinKind.written : JoinKind → String
  | inner => "JOIN"
  | left => "LEFT JOIN"
  | right => "RIGHT JOIN"
  | full => "FULL JOIN"
  | leftSemi => "LEFT SEMI JOIN"
  | rightSemi => "RIGHT SEMI JOIN"
  | leftAnti => "LEFT ANTI JOIN"
  | rightAnti => "RIGHT ANTI JOIN"
  | cross => "CROSS JOIN"
  | crossApply => "CROSS APPLY"
  | outerApply => "OUTER APPLY"

/-- A word with a space behind it, if it is to be written at all. -/
def wordIf (condition : Bool) (word : String) : String := if condition then word ++ " " else ""

/-- Words and operands in turn, beginning with a word. -/
def weave : List String → List String → String
  | [], operands => String.join operands
  | words, [] => String.join words
  | word :: words, operand :: operands => word ++ operand ++ weave words operands

/-- A clause with a comma between its parts, if there are any. -/
def clause (word : String) (parts : List String) : String :=
  if parts.isEmpty then "" else " " ++ word ++ " " ++ commas parts

/-! ### Trees -/

/-- The branches of a `CASE`. -/
def branches : List String → List String → String
  | condition :: conditions, result :: results =>
    " WHEN " ++ condition ++ " THEN " ++ result ++ branches conditions results
  | _, _ => ""

mutual

def Expr.written : Expr → String
  | .name parts => ObjectName.written parts
  | .literal value => value.written
  | .unary .plus operand => "+" ++ operand.written
  | .unary .minus operand => "-" ++ operand.written
  | .unary .not operand => "NOT " ++ operand.written
  | .unary .factorial operand => operand.written ++ "!"
  | .binary op left right => left.written ++ " " ++ op.written ++ " " ++ right.written
  | .nested inner => "(" ++ inner.written ++ ")"
  | .between negated value low high =>
    value.written ++ " " ++ wordIf negated "NOT" ++ "BETWEEN " ++ low.written ++ " AND " ++
      high.written
  | .inList negated value items =>
    value.written ++ " " ++ wordIf negated "NOT" ++ "IN (" ++ commas (writtenAll items) ++ ")"
  | .inQuery negated value query =>
    value.written ++ " " ++ wordIf negated "NOT" ++ "IN (" ++ query.written ++ ")"
  | .exists negated query => wordIf negated "NOT" ++ "EXISTS (" ++ query.written ++ ")"
  | .subquery query => "(" ++ query.written ++ ")"
  | .arrayQuery query => "ARRAY(" ++ query.written ++ ")"
  | .cast form value type =>
    form.written ++ "(" ++ value.written ++ " AS " ++ type.written ++ ")"
  | .case operand conditions results otherwise =>
    "CASE" ++ Expr.writtenAfter " " operand ++
      branches (writtenAll conditions) (writtenAll results) ++
      Expr.writtenAfter " ELSE " otherwise ++ " END"
  | .call name distinct args treatment window orderBy =>
    ObjectName.written name ++ "(" ++ wordIf distinct "DISTINCT" ++
      commas (Item.argumentAll args) ++
      clause "ORDER BY" (writtenAll orderBy) ++ ")" ++ treatment ++
      Expr.writtenAfter " OVER " window
  | .trim words value what =>
    "TRIM(" ++ words ++
      (match what with
        | none => ""
        | some what => what.written ++ " FROM ") ++ value.written ++ ")"
  | .phrase words operands => weave words (writtenAll operands)

def writtenAll : List Expr → List String
  | [] => []
  | e :: es => e.written :: writtenAll es

/-- An optional expression behind a word. -/
def Expr.writtenAfter (word : String) : Option Expr → String
  | none => ""
  | some e => word ++ e.written

/-- An item of a call. -/
def Item.argument : Item → String
  | .expr none value => value.written
  | .expr (some label) value => label.written ++ " => " ++ value.written
  | .star none [] => "*"
  | .star none qualifier => ObjectName.written qualifier ++ ".*"
  | .star (some label) [] => label.written ++ " => *"
  | .star (some label) qualifier => label.written ++ " => " ++ ObjectName.written qualifier ++ ".*"

def Item.argumentAll : List Item → List String
  | [] => []
  | item :: items => item.argument :: Item.argumentAll items

/-- An item of a select list. -/
def Item.selected : Item → String
  | .expr none value => value.written
  | .expr (some label) value => value.written ++ " AS " ++ label.written
  | .star _ [] => "*"
  | .star _ qualifier => ObjectName.written qualifier ++ ".*"

def Item.selectedAll : List Item → List String
  | [] => []
  | item :: items => item.selected :: Item.selectedAll items

def OrderKey.written : OrderKey → String
  | .mk value _ words => value.written ++ words

def OrderKey.writtenAll : List OrderKey → List String
  | [] => []
  | key :: keys => key.written :: OrderKey.writtenAll keys

def Query.written : Query → String
  | .mk recursive ctes body orderBy limit offset fetch locks form =>
    (if ctes.isEmpty then ""
      else "WITH " ++ wordIf recursive "RECURSIVE" ++ commas (Cte.writtenAll ctes) ++ " ") ++
      body.written ++ clause "ORDER BY" (OrderKey.writtenAll orderBy) ++
      Expr.writtenAfter " LIMIT " limit ++ Expr.writtenAfter " " offset ++
      Expr.writtenAfter " " fetch ++ String.join (locks.map (" " ++ ·.text)) ++
      (match form with
        | none => ""
        | some text => " " ++ text)

def Cte.written : Cte → String
  | .mk asName query source =>
    asName.written ++ " AS (" ++ query.written ++ ")" ++
      (match source with
        | none => ""
        | some ident => " FROM " ++ ident.written)

def Cte.writtenAll : List Cte → List String
  | [] => []
  | cte :: ctes => cte.written :: Cte.writtenAll ctes

def Body.written : Body → String
  | .select select => select.written
  | .query query => "(" ++ query.written ++ ")"
  | .setOperation words left right => left.written ++ " " ++ words ++ " " ++ right.written
  | .values explicitRow rows =>
    "VALUES " ++ commas ((writtenAll rows).map ((if explicitRow then "ROW" else "") ++ ·))
  | .other text => text

def Select.written : Select → String
  | .mk distinctness keys top items into sources views condition groupAll groupBy
      clusterBy distributeBy sortBy having windows qualify =>
    "SELECT" ++
      (match distinctness with
        | .none => ""
        | .byRow => " DISTINCT"
        | .byKeys => " DISTINCT ON (" ++ commas (writtenAll keys) ++ ")") ++
      Expr.writtenAfter " TOP " top ++ " " ++ commas (Item.selectedAll items) ++
      (match into with
        | none => ""
        | some target => " INTO " ++ target.words ++ ObjectName.written target.name) ++
      clause "FROM" (FromItem.writtenAll sources) ++ String.join (writtenAll views) ++
      Expr.writtenAfter " WHERE " condition ++ (if groupAll then " GROUP BY ALL" else "") ++
      clause "GROUP BY" (writtenAll groupBy) ++ clause "CLUSTER BY" (writtenAll clusterBy) ++
      clause "DISTRIBUTE BY" (writtenAll distributeBy) ++ clause "SORT BY" (writtenAll sortBy) ++
      Expr.writtenAfter " HAVING " having ++ clause "WINDOW" (writtenAll windows) ++
      Expr.writtenAfter " QUALIFY " qualify

def FromItem.written : FromItem → String
  | .mk source joins => source.written ++ Join.writtenAll joins

def FromItem.writtenAll : List FromItem → List String
  | [] => []
  | item :: items => item.written :: FromItem.writtenAll items

def Source.written : Source → String
  | .table name function args hints partitions asName =>
    ObjectName.written name ++
      (if partitions.isEmpty then "" else "PARTITION (" ++ Ident.list partitions ++ ")") ++
      (if function then "(" ++ commas (Item.argumentAll args) ++ ")" else "") ++
      TableAlias.suffix asName ++
      (if hints.isEmpty then "" else " WITH (" ++ commas (writtenAll hints) ++ ")")
  | .derived lateral query asName =>
    wordIf lateral "LATERAL" ++ "(" ++ query.written ++ ")" ++ TableAlias.suffix asName
  | .nestedJoin item asName => "(" ++ item.written ++ ")" ++ TableAlias.suffix asName
  | .foreign text => text

def Join.written : Join → String
  | .mk kind natural source on columns =>
    " " ++ wordIf natural "NATURAL" ++ kind.written ++ " " ++ source.written ++
      Expr.writtenAfter " ON " on ++
      (if columns.isEmpty then "" else " USING(" ++ Ident.list columns ++ ")")

def Join.writtenAll : List Join → String
  | [] => ""
  | join :: joins => join.written ++ Join.writtenAll joins

end

end ScopedQuery.Sql
