import TrustPath.Name.Parser
import TrustPath.Name.Printer

/-!
# Name handlers

A handler reads names for the name check and writes them for log lines. A program may bring its
own; the built-in one reads and writes the standard forms.
-/

namespace TrustPath

/-- How names are read and written. -/
structure NameHandler where
  parse : String → Except NameParseError DistinguishedName
  format : DistinguishedName → NameFormat → String

namespace NameHandler

def builtin : NameHandler := ⟨DistinguishedName.parse, DistinguishedName.format⟩

/-- A handler that writes every name in one form, whatever form is asked for. -/
def always (form : NameFormat) : NameHandler :=
  ⟨DistinguishedName.parse, fun name _ => name.format form⟩

/-- A name in the form of RFC 2253 that handlers use unless told otherwise. -/
def name (handler : NameHandler) (dn : DistinguishedName) : String := handler.format dn .rfc2253

end NameHandler

end TrustPath
