import ServiceGroups.Url.Host
import ServiceGroups.Url.Punycode

/-!
# Domains in ASCII

A domain is written in lower case, and its labels that go beyond ASCII in
Punycode.  Characters beyond ASCII are taken as they are: none of them is mapped
to another one, and labels that are encoded already are not checked.
-/

namespace ServiceGroups

namespace Host

def encodeDomain (domain : List Char) : List Char :=
  List.intercalate ['.']
    ((Text.splitAtEach '.' (domain.map Char.toLower)).map Punycode.encodeLabel)

instance punycodeDomains : Domains where
  toAscii? domain := some (encodeDomain domain)

end Host

end ServiceGroups
