import SelectTree.Sql.Grammar.TableDefinition

namespace SelectTree.Sql.Grammar

open Sql.Parser

/-! Roles: what is told of them when they are made, and how it is changed. -/

/-! Aspects -/

/-- What a role may or may not do: the word that allows it and the word that does not. -/
def roleFlags : List (String × String) :=
  [("SUPERUSER", "NOSUPERUSER"), ("CREATEDB", "NOCREATEDB"), ("CREATEROLE", "NOCREATEROLE"),
    ("INHERIT", "NOINHERIT"), ("LOGIN", "NOLOGIN"), ("REPLICATION", "NOREPLICATION"),
    ("BYPASSRLS", "NOBYPASSRLS")]

def roleFlagWords : List String :=
  roleFlags.flatMap fun (yes, no) => [yes, no]

/-- A flag as a message speaks of it. -/
def roleFlagAspect : String × String → String
  | (yes, no) => yes ++ " or " ++ no

/-- The aspects that need more than a word, in the order in which they are printed. -/
def roleDetails : List String :=
  ["CONNECTION LIMIT", "PASSWORD", "VALID UNTIL", "IN ROLE", "IN GROUP", "ROLE", "USER", "ADMIN"]

def roleAspects : List String :=
  roleFlags.map roleFlagAspect ++ roleDetails

/-- The aspect that a word opens, for which another word may have to follow. -/
def roleAspect (word : String) : Parser String := do
  match word with
  | "CONNECTION" =>
      expectWord "LIMIT"
      return "CONNECTION LIMIT"
  | "VALID" =>
      expectWord "UNTIL"
      return "VALID UNTIL"
  | "IN" =>
      match ← acceptAnyOf ["ROLE", "GROUP"] with
      | some group => return "IN " ++ group
      | none => expected (.phrase "ROLE or GROUP after IN")
  | _ =>
      match roleFlags.find? fun (yes, no) => word = yes || word = no with
      | some flag => return roleFlagAspect flag
      | none => return word

def password (d : Dialect) : Parser String := do
  if ← acceptWord "NULL" then return "NULL" else valueText d

/-- What is told of an aspect, after the word that opens it. -/
def roleAspectText (d : Dialect) (word aspect : String) : Parser String := do
  match aspect with
  | "CONNECTION LIMIT" => return "CONNECTION LIMIT " ++ (← numberText d)
  | "PASSWORD" => return "PASSWORD " ++ (← password d)
  | "VALID UNTIL" => return "VALID UNTIL " ++ (← valueText d)
  | "IN ROLE" | "IN GROUP" | "ROLE" | "USER" | "ADMIN" =>
      return aspect ++ " " ++ (← listedTexts nameText)
  | _ => return word

/-- The aspects of a new role; each may be told once. -/
def toldAspects (d : Dialect) : Parser (List (String × String)) :=
  iterate (fun (read : List (String × String)) => do
    let start ← rest
    match ← acceptAnyOf (roleFlagWords ++
        ["PASSWORD", "CONNECTION", "VALID", "IN", "ROLE", "USER", "ADMIN"]) with
    | none => return .inr read
    | some word =>
        let aspect ← roleAspect word
        if (read.lookup aspect).isSome then
          fun _ => .error ⟨.refusedHere ("Found multiple " ++ aspect), start⟩
        else
          let text ← roleAspectText d word aspect
          return .inl ((aspect, text) :: read)) []

/-! Making -/

def roleCreation (d : Dialect) : Parser String := do
  let guard ← ifNotExists
  let roles ← listedTexts pathText
  let _ ← acceptWord "WITH"
  let told ← if d.describesRoles then toldAspects d else pure []
  let texts := roleAspects.filterMap fun aspect => told.lookup aspect
  return "ROLE" ++ guard ++ " " ++ roles ++ String.join (texts.map (" " ++ ·))

/-! Changing -/

/-- A change of one aspect, which only a few of them allow. -/
def changedAspect? (d : Dialect) : Parser (Option String) :=
  attempt (do
    let word ← expectAnyOf (roleFlagWords ++ ["CONNECTION", "PASSWORD", "VALID"])
    let aspect ← roleAspect word
    roleAspectText d word aspect)

def roleSetting (n : Nested) : Parser String := do
  let setting ← pathText
  if ← acceptPhrase "FROM CURRENT" then return "SET " ++ setting ++ " FROM CURRENT"
  else if ← acceptAssignment then
    if ← acceptWord "DEFAULT" then return "SET " ++ setting ++ " TO DEFAULT"
    else return "SET " ++ setting ++ " TO " ++ (← exprOr n (.phrase "config value"))
  else expected (.phrase "'TO' or '=' or 'FROM CURRENT'")

def roleChange (d : Dialect) (n : Nested) (place : String) : Parser String := do
  match ← acceptAnyOf ["RENAME", "SET", "RESET"] with
  | some "RENAME" =>
      if ← acceptWord "TO" then return "RENAME TO " ++ (← nameText)
      else expected (.phrase "TO after RENAME")
  | some "SET" => return place ++ (← roleSetting n)
  | some _ =>
      if ← acceptWord "ALL" then return place ++ "RESET ALL"
      else return place ++ "RESET " ++ (← pathText)
  | none =>
      let _ ← acceptWord "WITH"
      let changes ← many (changedAspect? d)
      if changes.isEmpty then expected (.phrase "option")
      else return Text.joined " " ("WITH" :: changes)

def roleAlteration (d : Dialect) (n : Nested) : Parser String := do
  if d.describesRoles then
    let role ← nameText
    let database ← optionally (acceptPhrase "IN DATABASE") (attemptPast pathText)
    let place := clausePart "IN DATABASE " (database.join.map (· ++ " "))
    return "ALTER ROLE " ++ role ++ " " ++ (← roleChange d n place)
  else fail (.refused "ALTER ROLE is only support for PostgreSqlDialect, MsSqlDialect")

end SelectTree.Sql.Grammar
