import RelayDevice.Error
import RelayDevice.Text.Base64
import RelayDevice.Text.Utf8

/-!
# Trusted certificates

A secure connection is trusted if one of the given certificates vouches for the relay. They are
given as octets or in a text file, in which each stands in base 64 between a line that begins and
a line that ends it.

* `CertificateText.sections` — the sections of such a file, with their titles;
* `TrustSource.load` — the certificates of a source, of which there must be at least one;
* `TrustSource.anchors` — the certificates, if each is fit to vouch for others.
-/

namespace RelayDevice

namespace CertificateText

/-- Splits octets behind each line end. -/
def splitLines : Bytes → List Bytes
  | [] => []
  | c :: rest =>
    if c = 10 ∨ c = 13 then [c] :: splitLines rest
    else
      match splitLines rest with
      | [] => [[c]]
      | l :: ls => (c :: l) :: ls

/-- How a line begins a section. -/
def opening : Bytes := Utf8.encode "-----BEGIN "

/-- Whether an octet may stand behind the last hyphen of a line. -/
def isTrailer (c : UInt8) : Bool := c == 10 || c == 13 || c == 32

/-- A line without blanks at its end. -/
def trimmed (l : Bytes) : Bytes := (l.reverse.dropWhile isTrailer).reverse

/-- The title of a section in the line that begins it: what stands before its last five hyphens,
if there are as many. -/
def title? (l : Bytes) : Option Bytes :=
  let tail := (l.reverse.takeWhile fun c => c == 45 || isTrailer c).reverse
  let hyphens := tail.dropWhile (· != 45)
  if (tail.filter (· == 45)).length = 5 then
    some ((l.take (l.length - hyphens.length)).drop opening.length)
  else none

/-- The line that ends a section. -/
def closing (title : Bytes) : Bytes := Utf8.encode "-----END " ++ title ++ Utf8.encode "-----"

/-- The titles of sections that stand on their own; others are skipped. -/
def isKnown (title : Bytes) : Bool :=
  [Utf8.encode "CERTIFICATE", Utf8.encode "RSA PRIVATE KEY", Utf8.encode "PRIVATE KEY",
    Utf8.encode "EC PRIVATE KEY", Utf8.encode "X509 CRL"].contains title

/-- Reads the sections in lines, given the title of the section so far and its letters. A section
must end and hold base 64. -/
def readLines : Option Bytes → Bytes → List Bytes →
    Except CertificateTextError (List (Bytes × Bytes))
  | none, _, [] => .ok []
  | some title, _, [] => .error (.unclosed (closing title))
  | current, letters, l :: ls =>
    if opening.isPrefixOf l then
      match title? l with
      | none => .error (.badOpening l)
      | some title => readLines (some title) letters ls
    else
      match current with
      | none => readLines none letters ls
      | some title =>
        if (closing title).isPrefixOf l then
          match Base64.decode letters with
          | .error cause => .error (.badLetters cause)
          | .ok octets =>
            if isKnown title then (readLines none [] ls).map ((title, octets) :: ·)
            else readLines none [] ls
        else readLines current (letters ++ trimmed l) ls

/-- The sections of a file. -/
def sections (file : Bytes) : Except CertificateTextError (List (Bytes × Bytes)) :=
  readLines none [] (splitLines file)

/-- The certificates in a file. -/
def certificates (file : Bytes) : Except CertificateTextError (List Bytes) :=
  (sections file).map fun sections =>
    (sections.filter (·.1 = Utf8.encode "CERTIFICATE")).map (·.2)

end CertificateText

/-- Where certificates come from: a file, with its contents or the reason why it has none, or just
octets. -/
inductive TrustSource
  | file (path : String) (contents : Except String Bytes)
  | octets (certificates : List Bytes)

namespace TrustSource

/-- The certificates of a source. -/
def read : TrustSource → Except ConfigError (List Bytes)
  | octets certificates => .ok certificates
  | file path (.error reason) => .error (.trustFileUnreadable path reason)
  | file _ (.ok contents) =>
    (CertificateText.certificates contents).mapError .trustFileMalformed

/-- The certificates of a source, of which there must be at least one. -/
def load (s : TrustSource) : Except ConfigError (List Bytes) :=
  match s.read with
  | .ok [] => .error .noCertificates
  | other => other

/-- The certificates of a source, if each is fit to vouch for others. -/
def anchors (fit : Bytes → Bool) (s : TrustSource) : Except DeviceError (List Bytes) :=
  match s.load with
  | .error e => .error (.config e)
  | .ok certificates =>
    if certificates.all fit then .ok certificates else .error (.tls .unfitCertificate)

end TrustSource

end RelayDevice
