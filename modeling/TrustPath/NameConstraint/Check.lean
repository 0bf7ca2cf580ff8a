import TrustPath.Certificate.Basic
import TrustPath.Host.Url
import TrustPath.NameConstraint.Match

/-!
# Name constraints

A certification authority may exclude subtrees of names, and may permit subtrees of some kinds of
names. A certificate below it must have no name in an excluded subtree, and every name of a kind
for which something is permitted must lie in a permitted subtree. The names are the subject, the
email addresses in it, and the alternative names. Texts are compared without regard to the case
of ASCII letters, and of a URI only the host counts; one without a host lies in no subtree.
-/

namespace TrustPath

/-- The names of a certificate that constraints speak of, kind by kind; texts in lowercase. -/
structure ConstrainedNames where
  dns : List String
  email : List String
  uriHosts : List (Option String)
  directory : List DistinguishedName
  ip : List Octets

/-- The names that constraints compare: those of a certificate or the bases of subtrees. -/
def GeneralName.dns? : GeneralName → Option String
  | .dns s => some (Text.lowerAscii s)
  | _ => none

def GeneralName.email? : GeneralName → Option String
  | .rfc822 s => some (Text.lowerAscii s)
  | _ => none

def GeneralName.uri? : GeneralName → Option String
  | .uri s => some s
  | _ => none

def GeneralName.directory? : GeneralName → Option DistinguishedName
  | .directory name => some name
  | _ => none

/-- The address of a name, or the address and mask of a base. -/
def GeneralName.ip? : GeneralName → Option Octets
  | .ip octets => some octets
  | _ => none

/-- The names of a certificate. Alternative names that cannot be read do not count. -/
def ConstrainedNames.ofCertificate (c : Certificate) : ConstrainedNames :=
  let alternatives := match c.subjectAltName with
    | .ok (some names) => names
    | _ => []
  { dns := alternatives.filterMap GeneralName.dns?
    email := (c.subject.valuesOf emailAddressOid).map Text.lowerAscii
      ++ alternatives.filterMap GeneralName.email?
    uriHosts := (alternatives.filterMap GeneralName.uri?).map uriHost?
    directory := (if c.subject.isEmpty then [] else [c.subject])
      ++ alternatives.filterMap GeneralName.directory?
    ip := alternatives.filterMap GeneralName.ip? }

/-- How a name breaks a constraint. -/
inductive NameViolation
  | excluded (name : String)
  | dns (name : String)
  | email (address : String)
  | uri
  | directory (name : DistinguishedName)
  | ip (address : Octets)

def NameViolation.message : NameViolation → String
  | .excluded name => "name " ++ name ++ " falls within an excluded subtree"
  | .dns name => "DNS name " ++ name ++ " is not within a permitted subtree"
  | .email address => "email address " ++ address ++ " is not within a permitted subtree"
  | .uri => "URI is not within a permitted subtree"
  | .directory name => "directory name " ++ toString name ++ " is not within a permitted subtree"
  | .ip address => "IP address " ++ Octets.toHex address ++ " is not within a permitted subtree"

namespace NameConstraint

/-- Whether a URI with this host lies in the subtree of a base. -/
def uriMatches (host : Option String) (base : String) : Bool :=
  match host with
  | some h => hostMatches h base
  | none => false

/-- The first name in the subtree of a base, in words. Kinds other than the five are in no
subtree. -/
def firstWithin? (names : ConstrainedNames) : GeneralName → Option String
  | .dns base => names.dns.find? (dnsMatches · (Text.lowerAscii base))
  | .rfc822 base => names.email.find? (emailMatches · (Text.lowerAscii base))
  | .uri base => (names.uriHosts.find? (uriMatches · (Text.lowerAscii base))).join
  | .directory base => (names.directory.find? (·.isWithin base)).map toString
  | .ip base => (names.ip.find? (ipMatches · base)).map Octets.toHex
  | _ => none

/-- The first name that lies in no base, provided there is a base. -/
def firstOutside? {α β : Type} (within : α → β → Bool) (names : List α) (bases : List β) :
    Option α :=
  if bases.isEmpty then none else names.find? fun name => !bases.any (within name)

/-- The first name in an excluded subtree. -/
def exclusion? (excluded : List GeneralName) (names : ConstrainedNames) : Option NameViolation :=
  (excluded.findSome? (firstWithin? names)).map .excluded

/-- The first name of a kind for which subtrees are permitted that is in none of them. -/
def outsider? (permitted : List GeneralName) (names : ConstrainedNames) : Option NameViolation :=
  (firstOutside? dnsMatches names.dns (permitted.filterMap GeneralName.dns?)).map .dns
  <|> (firstOutside? emailMatches names.email (permitted.filterMap GeneralName.email?)).map .email
  <|> (firstOutside? uriMatches names.uriHosts
        ((permitted.filterMap GeneralName.uri?).map Text.lowerAscii)).map (fun _ => .uri)
  <|> (firstOutside? DistinguishedName.isWithin names.directory
        (permitted.filterMap GeneralName.directory?)).map .directory
  <|> (firstOutside? ipMatches names.ip (permitted.filterMap GeneralName.ip?)).map .ip

end NameConstraint

/-- What is wrong with the names of a certificate under constraints, if anything is. -/
def NameConstraints.violation? (constraints : NameConstraints) (c : Certificate) :
    Option NameViolation :=
  let names := ConstrainedNames.ofCertificate c
  NameConstraint.exclusion? (constraints.excluded.getD []) names
  <|> NameConstraint.outsider? (constraints.permitted.getD []) names

end TrustPath
