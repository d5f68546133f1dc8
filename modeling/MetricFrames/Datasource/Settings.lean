import MetricFrames.Binary64.Arithmetic
import MetricFrames.Binary64.Reading
import MetricFrames.Query.Decoding

/-!
# Datasource settings

The stored settings of a datasource: an id, the time of the last change, an address, plain settings
of any shape and secrets. The plain settings are looked at only when an instance is built from
them, so what is wrong with them shows only then.
-/

namespace MetricFrames

/-- How requests prove who sends them: with a token that the host provides, or with the ambient
credentials of the machine. -/
inductive Authentication where
  | token | ambient
  deriving DecidableEq

/-- The word for a way of authentication. -/
def Authentication.word : Authentication → String
  | .token => "jwt"
  | .ambient => "gce"

/-- Stored settings. -/
structure Settings where
  id : Int := 0
  updated : Option Timestamp := none
  address : String := ""
  plain : Members Data := []
  secrets : Members String := []

/-- A batch of queries for one datasource. -/
structure Batch where
  datasource : Settings := {}
  queries : List BatchQuery := []

/-- A value that names no way of authentication, as a message cites it. -/
structure UnknownAuthentication where
  cited : String
  deriving DecidableEq

/-- The wording of an unknown authentication. -/
def UnknownAuthentication.message (u : UnknownAuthentication) : String :=
  u.cited ++ " is not a valid AuthenticationType"

namespace Settings

/-- The address of the service where the settings give none. -/
def defaultAddress : String := "https://monitoring.googleapis.com"

/-- A plain setting; a value that does not count as given is the empty text. -/
def plainOr (s : Settings) (name : String) (fallback : Data) : Data :=
  (Query.member s.plain name).orElse fallback

/-- The way of authentication; tokens of the host if none is given. -/
def authentication (s : Settings) : Except UnknownAuthentication Authentication :=
  match s.plainOr "authenticationType" (.text "jwt") with
  | .text "jwt" => .ok .token
  | .text "gce" => .ok .ambient
  | d => .error ⟨String.ofList d.cited⟩

/-- The project of queries that name none. -/
def defaultProject (s : Settings) : Data := s.plainOr "defaultProject" (.text "")

/-- The account that reads the data. -/
def clientEmail (s : Settings) : Data := s.plainOr "clientEmail" (.text "")

/-- Where tokens come from. -/
def tokenUri (s : Settings) : Data := s.plainOr "tokenUri" (.text "")

/-- A value as a number of seconds: a number, a flag, or a number in a text. -/
def secondsOf : Data → Except Fault Binary64
  | .float x => .ok x
  | .int i => Binary64.ofInteger i
  | .bool b => .ok (.ofInt (if b then 1 else 0))
  | .text s =>
    match Binary64.readLenient? s.toList with
    | some x => .ok x
    | none => .error (.notDecimal (String.ofList (Text.quoted s.toList)))
  | d => .error (.notNumeric d.typeName)

/-- How long a request may take, in seconds; thirty if nothing is given. -/
def timeout (s : Settings) : Except Fault Binary64 :=
  secondsOf (s.plainOr "timeout" (.int 30))

/-- The address of the service. -/
def serviceAddress (s : Settings) : String :=
  if s.address = "" then defaultAddress else s.address

/-- The name of the model in reports. -/
def model : String := "InstanceSettings"

open Decoder

/-- Settings from their members. -/
def ofMembers (ms : Members Data) : Checked Settings :=
  Settings.mk <$> FieldName.optional ⟨"id", "id"⟩ 0 integer ms
    <*> FieldName.optional ⟨"updated", "updated"⟩ none (nullable (timestamp .values)) ms
    <*> textField "url" "url" ms
    <*> FieldName.optional ⟨"jsonData", "json_data"⟩ [] (dictionary any) ms
    <*> FieldName.optional ⟨"decryptedSecureJsonData", "decrypted_secure_json_data"⟩ []
      (dictionary text) ms

end Settings

/-- The name of the model in reports. -/
def Batch.model : String := "QueryDataRequest"

/-- A batch. -/
def Batch.decoder : Decoder Batch :=
  Decoder.record fun ms =>
    Batch.mk <$> FieldName.optional ⟨"datasource", "datasource"⟩ {}
        (Decoder.record Settings.ofMembers) ms
      <*> FieldName.optional ⟨"queries", "queries"⟩ [] (Decoder.list BatchQuery.decoder) ms

end MetricFrames
