import BearerAuth.Json.Timestamp
import BearerAuth.Token.Basic

/-! # Tokens in JSON -/

namespace BearerAuth

open BearerAuth.Time BearerAuth.Json

namespace Token

def toJson (t : Token) : Value :=
  .object [("id", .string t.id), ("user_id", .string t.userId), ("kind", .string t.kind.name),
    ("client_type", .string t.clientType.name), ("issued_at", .time t.issuedAt),
    ("expires_at", .time t.expiresAt), ("raw", .string t.raw)]

/-- The fields met so far in an object. -/
structure Slots where
  id : Option String := none
  userId : Option String := none
  kind : Option TokenKind := none
  clientType : Option ClientType := none
  issuedAt : Option Timestamp := none
  expiresAt : Option Timestamp := none
  raw : Option String := none

/-- Reads a token; other members are passed over. -/
def reader : Reader Token :=
  Reader.record {}
    (fun (p : Slots) key => do
      match key with
      | "id" => return { p with id := ← Reader.field p.id Reader.string }
      | "user_id" => return { p with userId := ← Reader.field p.userId Reader.string }
      | "kind" => return { p with kind := ← Reader.field p.kind (Reader.named TokenKind.ofName?) }
      | "client_type" =>
        return { p with clientType := ← Reader.field p.clientType ClientType.reader }
      | "issued_at" => return { p with issuedAt := ← Reader.field p.issuedAt Reader.time }
      | "expires_at" => return { p with expiresAt := ← Reader.field p.expiresAt Reader.time }
      | "raw" => return { p with raw := ← Reader.field p.raw Reader.string }
      | _ => do
        Reader.skip
        return p)
    (fun p => do
      return ⟨← Reader.required p.id, ← Reader.required p.userId, ← Reader.required p.kind,
        ← Reader.required p.clientType, ← Reader.required p.issuedAt, ← Reader.required p.expiresAt,
        ← Reader.required p.raw⟩)
    (do
      return ⟨← Reader.item true Reader.string, ← Reader.item false Reader.string,
        ← Reader.item false (Reader.named TokenKind.ofName?), ← Reader.item false ClientType.reader,
        ← Reader.item false Reader.time, ← Reader.item false Reader.time,
        ← Reader.item false Reader.string⟩)

end Token

namespace TokenPair

def toJson (p : TokenPair) : Value :=
  .object [("access", p.access.toJson), ("refresh", p.refresh.toJson)]

/-- The fields met so far in an object. -/
structure Slots where
  access : Option Token := none
  refresh : Option Token := none

/-- Reads a pair; other members are passed over. -/
def reader : Reader TokenPair :=
  Reader.record {}
    (fun (p : Slots) key => do
      match key with
      | "access" => return { p with access := ← Reader.field p.access Token.reader }
      | "refresh" => return { p with refresh := ← Reader.field p.refresh Token.reader }
      | _ => do
        Reader.skip
        return p)
    (fun p => do return ⟨← Reader.required p.access, ← Reader.required p.refresh⟩)
    (do return ⟨← Reader.item true Token.reader, ← Reader.item false Token.reader⟩)

end TokenPair

end BearerAuth
