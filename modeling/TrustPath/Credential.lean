import TrustPath.Bundle
import TrustPath.Name.Handler

/-!
# Credentials

A credential is an untrusted certificate of an end entity with the certificates and revocation
lists that came with it. All of them decode, which is checked when they are added, and the chain
always starts with the entity's certificate.
-/

namespace TrustPath

/-- A credential: the entity's certificate, the rest of the chain, revocation lists, and the
identifier of the entity if it is known. -/
structure Credential where
  entity : Octets
  others : List Octets
  crls : List Octets
  entityId : Option String
deriving Repr, DecidableEq

namespace Credential

/-- The chain, which begins with the entity's certificate. -/
def chain (c : Credential) : List Octets := c.entity :: c.others

def new (entity : Octets) : Except TrustError Credential :=
  match Certificate.decode entity with
  | .ok _ => .ok ⟨entity, [], [], none⟩
  | .error e => .error e

/-- Replace the chain. The entity's certificate is put in front unless the chain begins with it. -/
def withChain (c : Credential) (chain : List Octets) : Except TrustError Credential :=
  match Bundle.checkAll Certificate.decode chain with
  | .error e => .error e
  | .ok _ => .ok { c with others := if chain.head? = some c.entity then chain.tail else chain }

def withCrls (c : Credential) (crls : List Octets) : Except TrustError Credential :=
  match Bundle.checkAll Crl.decode crls with
  | .error e => .error e
  | .ok _ => .ok { c with crls }

def withEntityId (c : Credential) (entityId : String) : Credential :=
  { c with entityId := some entityId }

def certificate (c : Credential) : Except TrustError Certificate := Certificate.decode c.entity

/-- The identifier of the entity without surrounding white space, if anything is left of it. -/
def shownEntityId? (c : Credential) : Option String :=
  (c.entityId.map Text.trimText).filter fun id => !id.isEmpty

/-- The words by which log lines name the credential. -/
def token (c : Credential) (handler : NameHandler) : String :=
  let subject := match c.certificate with
    | .ok certificate => handler.name certificate.subject
    | .error _ => ""
  let entity := match c.shownEntityId? with
    | some id => " |credential entityID='" ++ id ++ "'"
    | none => ""
  "[subjectName='" ++ subject ++ "'" ++ entity ++ "]"

end Credential

end TrustPath
