/-! Why a chain of calls is not a statement. -/
namespace SqlGateway

inductive NameRole where
  | table
  | column
  | projection
  deriving DecidableEq, Repr

def NameRole.word : NameRole → String
  | table => "table"
  | column => "column"
  | projection => "projection"

inductive RowClause where
  | limit
  | offset
  deriving DecidableEq, Repr

def RowClause.word : RowClause → String
  | limit => "limit"
  | offset => "offset"

inductive RecordUse where
  | insert
  | update
  deriving DecidableEq, Repr

def RecordUse.word : RecordUse → String
  | insert => "insert"
  | update => "update"

/-- What is wrong with a query whose names are in order. -/
inductive QueryFault where
  /-- A record was given as JSON of this other kind. -/
  | notARecord (kind : String)
  | noColumns (purpose : RecordUse)
  | rowCount (clause : RowClause) (count : UInt64)
  | parameterCount (count : Nat)
  /-- A fault that another party states in its own words. -/
  | stated (reason : String)
  deriving DecidableEq, Repr

def maxParameters : Nat := 65535

def QueryFault.reason : QueryFault → String
  | notARecord kind => "record must be a JSON object, got " ++ kind
  | noColumns purpose => purpose.word ++ " requires at least one column"
  | rowCount clause count =>
    clause.word ++ " " ++ toString count.toNat ++ " exceeds " ++ toString 0x7fffffffffffffff
  | parameterCount count =>
    "statement binds " ++ toString count ++ " parameters, maximum is " ++ toString maxParameters
  | stated reason => reason

inductive QueryError where
  | invalidName (role : NameRole) (name : String)
  | invalidRange (first last : UInt64)
  | invalidQuery (fault : QueryFault)
  deriving DecidableEq, Repr

def QueryError.message : QueryError → String
  | invalidName role name => "invalid " ++ role.word ++ " identifier '" ++ name ++ "'"
  | invalidRange first last =>
    "invalid range: from " ++ toString first.toNat ++ " is past to " ++ toString last.toNat
  | invalidQuery fault => "invalid query: " ++ fault.reason

end SqlGateway
