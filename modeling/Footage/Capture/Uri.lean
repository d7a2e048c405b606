import Footage.Text.Cutting

/-!
# Stream URIs

A URI with an authority is a scheme, the authority, and the rest from the first slash, question
mark or hash sign on. Two preparations work on the credentials in the authority: a user name
without a password gets an explicit blank password before a stream is opened by HTTP, since the
engine would skip authentication otherwise; and all credentials are masked before a URI is shown.
The user name ends at the first at sign, the credentials at the last one.
-/

namespace Footage.Capture

set_option autoImplicit false

namespace Uri

/-- Scheme, authority and rest of a URI, without the mark between the first two. -/
structure Parts where
  scheme : List Char
  authority : List Char
  rest : List Char
deriving DecidableEq, Repr

def schemeMark : List Char := [':', '/', '/']

def endsAuthority (char : Char) : Bool := char == '/' || char == '?' || char == '#'

def split? (uri : List Char) : Option Parts :=
  (Text.cutWord schemeMark uri).map fun (scheme, behind) =>
    ⟨scheme, behind.takeWhile fun char => !endsAuthority char,
      behind.dropWhile fun char => !endsAuthority char⟩

def Parts.join (parts : Parts) : List Char :=
  parts.scheme ++ schemeMark ++ parts.authority ++ parts.rest

def lowerScheme (scheme : List Char) : List Char := scheme.map Char.toLower

/-- The scheme is HTTP, with or without encryption, in any case. -/
def isHttp (scheme : List Char) : Bool :=
  lowerScheme scheme == "http".toList || lowerScheme scheme == "https".toList

def mask : List Char := ['*', '*', '*']

/-- Gives a user name without a password a blank one, and puts the scheme in lower case. -/
def repairChars (uri : List Char) : List Char :=
  match split? uri with
  | none => uri
  | some parts =>
      if isHttp parts.scheme then
        match Text.cutFirst '@' parts.authority with
        | none => uri
        | some (user, host) =>
            if user.isEmpty ∨ user.contains ':' then uri
            else
              Parts.join ⟨lowerScheme parts.scheme, user ++ ':' :: '@' :: host, parts.rest⟩
      else uri

/-- Replaces the credentials by the mask. -/
def maskChars (uri : List Char) : List Char :=
  match split? uri with
  | none => uri
  | some parts =>
      match Text.cutLast '@' parts.authority with
      | none => uri
      | some (_, host) => Parts.join ⟨parts.scheme, mask ++ '@' :: host, parts.rest⟩

def repairBlankPassword (uri : String) : String := String.ofList (repairChars uri.toList)

def maskCredentials (uri : String) : String := String.ofList (maskChars uri.toList)

end Uri

end Footage.Capture
