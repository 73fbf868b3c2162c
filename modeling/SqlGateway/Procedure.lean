import SqlGateway.Envelope

/-! Procedures that are answered from a fixed table, without asking the gateway. -/
namespace SqlGateway

inductive Procedure where
  | personalAccount
  | accountBySlug
  deriving DecidableEq, Repr

namespace Procedure

def table : List (String × Procedure) :=
  [("get_personal_account", personalAccount), ("get_account_by_slug", accountBySlug)]

def resolve? (name : String) : Option Procedure := table.lookup name

def names : List String := table.map Prod.fst

def defaultSlug : String := "default-account"

/-- The slug asked for; an empty one is none. -/
def requestedSlug (params : Json) : String :=
  (((params.get? "slug").bind Json.asString?).filter (!·.isEmpty)).getD defaultSlug

def record (now : String) (params : Json) : Procedure → Row
  | personalAccount =>
    [("id", .str "personal-account-id"), ("name", .str "Personal Account"),
      ("email", .str "user@example.com"), ("created_at", .str now), ("updated_at", .str now)]
  | accountBySlug =>
    [("id", .str "account-id"), ("slug", .str (requestedSlug params)),
      ("name", .str "Account Name"), ("created_at", .str now), ("updated_at", .str now)]

/-- A procedure that is not in the table has no data and no error. -/
def call (now : String) (name : String) (params : Json) : Envelope Row :=
  match resolve? name with
  | some procedure => .ok (procedure.record now params)
  | none => .empty

end Procedure

end SqlGateway
