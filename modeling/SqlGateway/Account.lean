import SqlGateway.Envelope

/-! Users and their sessions. The gateway keeps neither: every question about them is answered at
once, and the answer is that there are none. -/
namespace SqlGateway

open Json (Decoder)

structure User where
  id : String
  email : String
  name : Option String
  createdAt : Option String
  deriving DecidableEq, Repr

namespace User

/-- Members without a value are left out. -/
def encode (u : User) : Json :=
  .obj ([("id", .str u.id), ("email", .str u.email)] ++
    (u.name.map fun s => ("name", Json.str s)).toList ++
    (u.createdAt.map fun s => ("created_at", Json.str s)).toList)

def decode : Decoder User :=
  Decoder.struct ["id", "email", "name", "created_at"] fun room slots =>
    match slots with
    | [id, email, name, createdAt] => do
      return ⟨← id.required Decoder.string room, ← email.required Decoder.string room,
        ← name.defaulted (Decoder.option Decoder.string) none room,
        ← createdAt.defaulted (Decoder.option Decoder.string) none room⟩
    | _ => none

end User

structure Session where
  accessToken : String
  refreshToken : String
  user : User
  expiresAt : Option Int64
  deriving DecidableEq

namespace Session

def encode (s : Session) : Json :=
  .obj ([("access_token", .str s.accessToken), ("refresh_token", .str s.refreshToken),
    ("user", s.user.encode)] ++ (s.expiresAt.map fun n => ("expires_at", Json.ofInt64 n)).toList)

def decode : Decoder Session :=
  Decoder.struct ["access_token", "refresh_token", "user", "expires_at"] fun room slots =>
    match slots with
    | [accessToken, refreshToken, user, expiresAt] => do
      return ⟨← accessToken.required Decoder.string room,
        ← refreshToken.required Decoder.string room, ← user.required User.decode room,
        ← expiresAt.defaulted (Decoder.option Decoder.int64) none room⟩
    | _ => none

end Session

structure SessionData where
  session : Option Session
  deriving DecidableEq

namespace SessionData

def encode (d : SessionData) : Json := .obj [("session", .ofOption Session.encode d.session)]

def decode : Decoder SessionData :=
  Decoder.struct ["session"] fun room slots =>
    match slots with
    | [session] => do return ⟨← session.optional Session.decode room⟩
    | _ => none

end SessionData

structure UserData where
  user : Option User
  deriving DecidableEq

namespace UserData

def encode (d : UserData) : Json := .obj [("user", .ofOption User.encode d.user)]

def decode : Decoder UserData :=
  Decoder.struct ["user"] fun room slots =>
    match slots with
    | [user] => do return ⟨← user.optional User.decode room⟩
    | _ => none

end UserData

inductive AuthEvent where
  | signedIn
  | signedOut
  | tokenRefreshed
  | userUpdated
  deriving DecidableEq, Repr

namespace AuthEvent

def name : AuthEvent → String
  | signedIn => "SIGNED_IN"
  | signedOut => "SIGNED_OUT"
  | tokenRefreshed => "TOKEN_REFRESHED"
  | userUpdated => "USER_UPDATED"

def encode (e : AuthEvent) : Json := .str e.name

def decode : Decoder AuthEvent :=
  Decoder.oneOf ([signedIn, signedOut, tokenRefreshed, userUpdated].map fun e => (e.name, e))

end AuthEvent

namespace Account

def session : Envelope SessionData := .ok ⟨none⟩

def user : Envelope UserData := .ok ⟨none⟩

def signOut : ErrorEnvelope := .empty

/-- The steps of a second factor. -/
inductive SecondFactor where
  | enroll
  | challenge
  | verify
  | challengeAndVerify
  | unenroll
  | assuranceLevel
  deriving DecidableEq, Repr

/-- No step of a second factor is provided. -/
def secondFactor (_ : SecondFactor) : Envelope Json := .empty

/-- The handle of a listener. -/
structure Subscription where
  deriving DecidableEq, Repr

def subscribe : Envelope Subscription := .ok {}

/-- What a listener is told: there are never any events. -/
def events : List (AuthEvent × Option Session) := []

end Account

end SqlGateway
