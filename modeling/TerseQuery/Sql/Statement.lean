import TerseQuery.Sql.Condition

/-!
# Statements

The statements that terse queries stand for, and their SQL.
-/
namespace TerseQuery.Sql

/-- How conditions are joined. -/
inductive Connective where
  | all
  | any
  deriving DecidableEq, Repr

def Connective.toSql : Connective → String
  | .all => " AND "
  | .any => " OR "

/-- The rows that a statement is about. Without conditions it is about all rows. -/
structure RowFilter where
  connective : Connective
  conditions : List Condition
  deriving DecidableEq, Repr

/-- The clause of a filter, with a space before it. -/
def RowFilter.toSql (f : RowFilter) : String :=
  if f.conditions.isEmpty then ""
  else " WHERE " ++ String.intercalate f.connective.toSql (f.conditions.map Condition.toSql)

/-- A change of a column: a literal, or the column and a literal joined by an arithmetical operator. -/
structure Assignment where
  column : String
  arithmetic : Option Char
  literal : String
  deriving DecidableEq, Repr

def Assignment.toSql (a : Assignment) : String :=
  match a.arithmetic with
  | none => a.column ++ " = " ++ a.literal
  | some operator => a.column ++ " = " ++ a.column ++ " " ++ String.singleton operator ++ " " ++ a.literal

/-- A column that is inserted with its literal. -/
structure InsertPair where
  column : String
  literal : String
  deriving DecidableEq, Repr

/-- A statement on one table. -/
inductive Statement where
  /-- No columns stand for all. -/
  | select (columns : List String) (table : String) (rows : RowFilter) (groupBy orderBy : List String)
    (limit : Option Nat)
  | insert (table : String) (pairs : List InsertPair)
  | update (table : String) (assignments : List Assignment) (rows : RowFilter)
  | delete (table : String) (rows : RowFilter)
  deriving DecidableEq, Repr

/-- Elements apart by commas. -/
def commaList (elements : List String) : String :=
  String.intercalate ", " elements

/-- A clause of columns, with a space before it, or nothing for no columns. -/
def columnClause (clause : String) (columns : List String) : String :=
  if columns.isEmpty then "" else " " ++ clause ++ " " ++ commaList columns

def limitClause : Option Nat → String
  | none => ""
  | some n => " LIMIT " ++ toString n

def Statement.toSql : Statement → String
  | .select columns table rows groupBy orderBy limit =>
    "SELECT " ++ (if columns.isEmpty then "*" else commaList columns) ++ " FROM " ++ table ++
      rows.toSql ++ columnClause "GROUP BY" groupBy ++ columnClause "ORDER BY" orderBy ++
      limitClause limit
  | .insert table pairs =>
    "INSERT INTO " ++ table ++ " (" ++ commaList (pairs.map InsertPair.column) ++ ") VALUES (" ++
      commaList (pairs.map InsertPair.literal) ++ ")"
  | .update table assignments rows =>
    "UPDATE " ++ table ++ " SET " ++ commaList (assignments.map Assignment.toSql) ++ rows.toSql
  | .delete table rows => "DELETE FROM " ++ table ++ rows.toSql

namespace Statement

variable (table : String) (rows : RowFilter)

@[simp]
theorem toSql_select (columns groupBy orderBy : List String) (limit : Option Nat) :
    (select columns table rows groupBy orderBy limit).toSql =
      "SELECT " ++ (if columns.isEmpty then "*" else commaList columns) ++ " FROM " ++ table ++
        rows.toSql ++ columnClause "GROUP BY" groupBy ++ columnClause "ORDER BY" orderBy ++
        limitClause limit :=
  rfl

@[simp]
theorem toSql_insert (pairs : List InsertPair) :
    (insert table pairs).toSql =
      "INSERT INTO " ++ table ++ " (" ++ commaList (pairs.map InsertPair.column) ++ ") VALUES (" ++
        commaList (pairs.map InsertPair.literal) ++ ")" :=
  rfl

@[simp]
theorem toSql_update (assignments : List Assignment) :
    (update table assignments rows).toSql =
      "UPDATE " ++ table ++ " SET " ++ commaList (assignments.map Assignment.toSql) ++ rows.toSql :=
  rfl

@[simp]
theorem toSql_delete : (delete table rows).toSql = "DELETE FROM " ++ table ++ rows.toSql :=
  rfl

end Statement

end TerseQuery.Sql
