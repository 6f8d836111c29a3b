import Botman.Library.PythonValue

/-!
The network location that `urllib.parse.urlparse` finds in a text.

Two checks rest on tables that are not modelled, the normal forms of Unicode
and the syntax of bracketed addresses.  They are one predicate, which is asked
only about locations that hold a character outside ASCII or a bracket.
-/

namespace Botman.Library.PythonUrl

def isSchemeChar (c : Char) : Bool :=
  c.isAlphanum || c = '+' || c = '-' || c = '.'

/-- A leading scheme and its colon are dropped. -/
def dropScheme (url : List Char) : List Char :=
  let scheme := url.takeWhile fun c => c ≠ ':'
  match scheme, url.dropWhile fun c => c ≠ ':' with
  | first :: _, _ :: rest =>
      if first.isAlpha && scheme.all isSchemeChar then rest else url
  | _, _ => url

/-- `urlparse(url).netloc`, absent where a `ValueError` is raised. -/
def netloc (accepts : String → Bool) (url : String) : Option String :=
  let stripped := url.toList.dropWhile fun c => c.toNat ≤ 32
  let safe := stripped.filter fun c => c ≠ '\t' && c ≠ '\r' && c ≠ '\n'
  match dropScheme safe with
  | '/' :: '/' :: rest =>
      let location := rest.takeWhile fun c => c ≠ '/' && c ≠ '?' && c ≠ '#'
      let opened := decide ('[' ∈ location)
      let closed := decide (']' ∈ location)
      let plain := location.all fun c => c.toNat < 128
      if opened ≠ closed then none
      else if (opened || !plain) && !accepts (String.ofList location) then none
      else some (String.ofList location)
  | _ => some ""

example : netloc (fun _ => true) "https://Shop.example.com:8080/a?b" =
    some "Shop.example.com:8080" := by decide

end Botman.Library.PythonUrl
