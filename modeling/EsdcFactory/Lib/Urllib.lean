import EsdcFactory.Lib.Text

/-!
# The parts of `urllib.parse` a request handler relies on

`urlparse` splits a request target into scheme, network location, path,
parameters, query and fragment; `parse_qs` reads the query.  Both work on
Python strings, which are lists of characters here.  The module ends with the
one law the access checks need: which targets `urlparse` hands back with their
path untouched.
-/

namespace EsdcFactory
namespace Urllib

open Text

/-!
## Percent decoding
-/

/-- The value of one hexadecimal digit of either case. -/
def hexValue (c : Char) : Option Nat :=
  if '0' ≤ c ∧ c ≤ '9' then some (c.toNat - '0'.toNat)
  else if 'a' ≤ c ∧ c ≤ 'f' then some (c.toNat - 'a'.toNat + 10)
  else if 'A' ≤ c ∧ c ≤ 'F' then some (c.toNat - 'A'.toNat + 10)
  else none

/-- `unquote_to_bytes` on a run of ASCII characters. -/
def unquoteToBytes : List Char -> List Nat
  | [] => []
  | '%' :: hi :: lo :: rest =>
      match hexValue hi, hexValue lo with
      | some h, some l => (16 * h + l) :: unquoteToBytes rest
      | _, _ => '%'.toNat :: unquoteToBytes (hi :: lo :: rest)
  | c :: rest => c.toNat :: unquoteToBytes rest

/-- What a UTF-8 decoder still waits for inside a multi-byte sequence. -/
structure Utf8Pending where
  value : Nat
  missing : Nat
  low : Nat
  high : Nat

/-- How a byte outside of any sequence is read. -/
inductive Utf8Start where
  | char (c : Char)
  | lead (pending : Utf8Pending)
  | bad

/-- The lead bytes of well-formed UTF-8 with the range of their second byte. -/
def utf8Start (b : Nat) : Utf8Start :=
  if b < 0x80 then .char (Char.ofNat b)
  else if 0xC2 ≤ b ∧ b ≤ 0xDF then .lead ⟨b - 0xC0, 1, 0x80, 0xBF⟩
  else if b = 0xE0 then .lead ⟨0, 2, 0xA0, 0xBF⟩
  else if b = 0xED then .lead ⟨0xD, 2, 0x80, 0x9F⟩
  else if 0xE1 ≤ b ∧ b ≤ 0xEF then .lead ⟨b - 0xE0, 2, 0x80, 0xBF⟩
  else if b = 0xF0 then .lead ⟨0, 3, 0x90, 0xBF⟩
  else if 0xF1 ≤ b ∧ b ≤ 0xF3 then .lead ⟨b - 0xF0, 3, 0x80, 0xBF⟩
  else if b = 0xF4 then .lead ⟨4, 3, 0x80, 0x8F⟩
  else .bad

/-- The character that stands for undecodable input. -/
def replacement : Char := Char.ofNat 0xFFFD

/-- Decode a byte that starts a new sequence. -/
def utf8Fresh (b : Nat) : List Char × Option Utf8Pending :=
  match utf8Start b with
  | .char c => ([c], none)
  | .lead p => ([], some p)
  | .bad => ([replacement], none)

/-- One byte of `bytes.decode('utf-8', 'replace')`. -/
def utf8Step : Option Utf8Pending -> Nat -> List Char × Option Utf8Pending
  | none, b => utf8Fresh b
  | some p, b =>
      if p.low ≤ b ∧ b ≤ p.high then
        let value := 64 * p.value + b % 64
        if p.missing ≤ 1 then ([Char.ofNat value], none)
        else ([], some ⟨value, p.missing - 1, 0x80, 0xBF⟩)
      else
        let fresh := utf8Fresh b
        (replacement :: fresh.1, fresh.2)

/-- `bytes.decode('utf-8', 'replace')`, from a decoder state. -/
def utf8Decode : Option Utf8Pending -> List Nat -> List Char
  | none, [] => []
  | some _, [] => [replacement]
  | state, b :: rest =>
      let step := utf8Step state b
      step.1 ++ utf8Decode step.2 rest

/-- `unquote`: maximal ASCII runs are percent-decoded, other characters kept. -/
def unquote : List Char -> List Char -> List Char
  | run, [] => utf8Decode none (unquoteToBytes run)
  | run, c :: rest =>
      if c.toNat < 0x80 then unquote (run ++ [c]) rest
      else utf8Decode none (unquoteToBytes run) ++ c :: unquote [] rest

/-!
## Query strings
-/

/-- One `name=value` piece of a query; blank values are dropped. -/
def queryPair (piece : List Char) : Option (List Char × List Char) :=
  if '=' ∈ piece ∧ after '=' piece ≠ [] then
    let plain := fun (s : List Char) => s.map fun c => if c = '+' then ' ' else c
    some (unquote [] (plain (before '=' piece)),
      unquote [] (plain (after '=' piece)))
  else none

/-- `parse_qs`, as the list of its pairs in order of appearance. -/
def parseQs (query : List Char) : List (List Char × List Char) :=
  (query.splitOn '&').filterMap queryPair

/-- `qs.get(name)[0]`, when the query has such a name. -/
def firstValue (name : List Char) (query : List Char) : Option (List Char) :=
  ((parseQs query).find? fun pair => pair.1 == name).map Prod.snd

/-!
## Targets
-/

/-- The characters `urlsplit` accepts in a scheme. -/
def schemeChar (c : Char) : Bool :=
  c.isAlphanum || c == '+' || c == '-' || c == '.'

/-- The schemes whose last path segment may carry parameters. -/
def usesParams : List String :=
  ["", "ftp", "hdl", "prospero", "http", "https", "shttp", "rtsp", "rtspu",
    "sip", "sips", "mms", "sftp", "tel"]

/-- The parts of a target that `urlparse` returns. -/
structure ParseResult where
  scheme : List Char
  netloc : List Char
  path : List Char
  params : List Char
  query : List Char
  fragment : List Char
deriving DecidableEq

/-- Split off a leading `scheme:`. -/
def splitScheme (url : List Char) : List Char × List Char :=
  let name := before ':' url
  if ':' ∈ url ∧ name.all schemeChar ∧ (name.head?.any Char.isAlpha) then
    (name.map Char.toLower, after ':' url)
  else ([], url)

/-- Split off a leading `//netloc`. -/
def splitNetloc (url : List Char) : List Char × List Char :=
  match url with
  | '/' :: '/' :: rest =>
      let inside := fun c => c != '/' && c != '?' && c != '#'
      (rest.takeWhile inside, rest.dropWhile inside)
  | _ => ([], url)

/-- `_splitparams`: cut the last segment at its first semicolon. -/
def splitParams (url : List Char) : List Char × List Char :=
  (uptoLast '/' url ++ before ';' (afterLast '/' url),
    after ';' (afterLast '/' url))

/-- `urlparse`. -/
def urlparse (url : List Char) : ParseResult :=
  let (scheme, url) := splitScheme url
  let (netloc, url) := splitNetloc url
  let fragment := after '#' url
  let url := before '#' url
  let query := after '?' url
  let url := before '?' url
  let (path, params) :=
    if String.ofList scheme ∈ usesParams then splitParams url else (url, [])
  { scheme, netloc, path, params, query, fragment }

/-- Cutting the parameters off leaves the text alone exactly when there are none. -/
theorem splitParams_fst_eq_self_iff {url : List Char} :
    (splitParams url).1 = url <-> ';' ∉ afterLast '/' url := by
  rw [← before_eq_self_iff]
  constructor
  · intro h
    have happend := uptoLast_append_afterLast '/' url
    have hcut : uptoLast '/' url ++ before ';' (afterLast '/' url) =
        uptoLast '/' url ++ afterLast '/' url := by
      rw [happend]
      exact h
    exact List.append_cancel_left hcut
  · intro h
    show uptoLast '/' url ++ before ';' (afterLast '/' url) = url
    rw [h]
    exact uptoLast_append_afterLast '/' url

theorem splitParams_fst_length_le (url : List Char) :
    (splitParams url).1.length ≤ url.length := by
  have hle : (before ';' (afterLast '/' url)).length ≤
      (afterLast '/' url).length := (before_isPrefix _ _).length_le
  have hsum := congrArg List.length (uptoLast_append_afterLast '/' url)
  simp only [splitParams, List.length_append] at *
  omega

theorem urlparse_rooted {c : Char} (rest : List Char) (hc : c ≠ '/') :
    (urlparse ('/' :: c :: rest)).path =
      (splitParams (before '?' (before '#' ('/' :: c :: rest)))).1 := by
  have hscheme : splitScheme ('/' :: c :: rest) = ([], '/' :: c :: rest) := by
    have hname : before ':' ('/' :: c :: rest) = '/' :: before ':' (c :: rest) :=
      before_cons_of_ne _ (by decide)
    unfold splitScheme
    rw [hname]
    simp [schemeChar]
  have hnetloc : splitNetloc ('/' :: c :: rest) = ([], '/' :: c :: rest) := by
    unfold splitNetloc
    split
    · rename_i heq
      injection heq with _ htail
      injection htail with hcc _
      exact absurd hcc hc
    · rfl
  simp [urlparse, hscheme, hnetloc, usesParams]

/--
For a rooted target, the parsed path is everything in front of the question
mark exactly when that part has no fragment mark and its last segment has no
parameters.
-/
theorem urlparse_path_eq_before_iff {c : Char} (rest : List Char)
    (hc : c ≠ '/') :
    (urlparse ('/' :: c :: rest)).path = before '?' ('/' :: c :: rest) <->
      '#' ∉ before '?' ('/' :: c :: rest) ∧
        ';' ∉ afterLast '/' (before '?' ('/' :: c :: rest)) := by
  rw [urlparse_rooted rest hc, before_comm '?' '#']
  generalize before '?' ('/' :: c :: rest) = p
  constructor
  · intro h
    -- both cuts only shorten the text, so neither removed a character
    have hlen := congrArg List.length h
    have hparams := splitParams_fst_length_le (before '#' p)
    have hfragment := (before_isPrefix '#' p).length_le
    have hp : before '#' p = p :=
      (before_isPrefix '#' p).eq_of_length (by omega)
    rw [hp] at h
    exact ⟨before_eq_self_iff.mp hp, splitParams_fst_eq_self_iff.mp h⟩
  · intro hparts
    rcases hparts with ⟨hfragment, hparams⟩
    rw [before_eq_self_iff.mpr hfragment]
    exact splitParams_fst_eq_self_iff.mpr hparams

end Urllib
end EsdcFactory
