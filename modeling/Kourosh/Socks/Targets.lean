import Kourosh.Socks.KeepAlive

/-
  Targets in absolute form, and what the proxy reads in them.

  The text between the scheme and the first slash is taken for the authority.

  Correctness is proven by:
    * `target_is_parsed`
-/

-- Targets

namespace Kourosh.Socks

open Routing Request

/- A request whose target has the scheme `http`, in any case of letters. -/
structure AbsoluteForm where
  request : Request
  userinfo : Option (List Char)
  fragment : Option (List Char)
  http : sameIgnoringCase request.scheme "http".toList = true
  other : ¬ request.IsConnect
  ports : ∀ text ∈ request.port, text ≠ [] ∧ Text.decimal text < 65536
  user_plain : ∀ text ∈ userinfo, ∀ c ∈ text, Text.isVisible c = true ∧ c ∉ "/?#[]@".toList
  path_plain : ∀ c ∈ request.path, c ∉ "?#".toList
  query_plain : '#' ∉ request.query
  fragment_visible : ∀ text ∈ fragment, ∀ c ∈ text, Text.isVisible c = true

namespace AbsoluteForm

def target (a : AbsoluteForm) : List Char :=
  a.request.scheme ++ "://".toList ++ a.userinfo.elim [] (· ++ ['@']) ++
    a.request.uri ++ a.fragment.elim [] ('#' :: ·)

def named (a : AbsoluteForm) (version : List Char) : HttpRequestLine where
  method := a.request.method
  authority := a.request.host
  port := UInt16.ofNat a.request.portNumber
  rewritten := some (a.request.method ++ " ".toList ++ a.request.originTarget ++
    " ".toList ++ version ++ "\r\n".toList)

variable {a : AbsoluteForm}

lemma parseAuthority_named (hScheme : a.request.HasScheme) : parseAuthority
  a.request.authority 80 = some (a.request.host, UInt16.ofNat a.request.portNumber) := by
  have hDefault := defaultPort_of_hasScheme hScheme
  rw [parseAuthority_authority]
  cases hPort : a.request.port with
  | none =>
    simp only [portNumber, hPort, hDefault]
    rfl
  | some text =>
    have hRange := a.ports text hPort
    have hDigits := a.request.digits text hPort
    have hNumber : a.request.portNumber = Text.decimal text := by
      cases text with
      | nil => exact absurd rfl hRange.1
      | cons => simp only [portNumber, hPort]
    rw [Option.elim_some, Text.parseU16_of_isDigit hDigits,
      if_neg (by simp [hRange.1]), if_pos hRange.2, hNumber]
    rfl

end AbsoluteForm

/-
  The destination is the one that is named, and so is every decision about it, if the scheme has
  one of two spellings, there is no user and no fragment, and a query has a path.
-/
theorem target_is_parsed
    {a : AbsoluteForm}
    {line version : List Char}
    (hWords : Text.splitWhitespace line = [a.request.method, a.target, version])
    (hScheme : a.request.HasScheme)
    (hUser : a.userinfo = none)
    (hFragment : a.fragment = none)
    (hPlain : a.request.Plain) :
    parseRequestLine line = some (a.named version) ∧
    ∀ lib rules env gateway client head pipelined client',
      readHead client = .ok (head, pipelined, client') →
      lineOf head = line →
      handleHttpClient lib rules env gateway client =
        routeHttp lib rules env gateway { head, pipelined, request := a.named version } client' := by
  have hTarget : a.target = a.request.target := by
    simp [AbsoluteForm.target, target, hUser, hFragment]
  have hOrigin : a.request.sentTarget = a.request.originTarget := sentTarget_of_plain hPlain
  have hParse : parseRequestLine line = some (a.named version) := by
    rw [hTarget] at hWords
    rw [a.request.parseRequestLine_words hWords, if_neg a.other, if_pos hScheme,
      parseAbsolute, (uri_of_plain hPlain).1,
      AbsoluteForm.parseAuthority_named hScheme, AbsoluteForm.named, ← hOrigin]
    rfl
  refine ⟨hParse, ?_⟩
  intro lib rules env gateway client head pipelined client' hRead hLine
  simp only [handleHttpClient, hRead, hLine, hParse]

def absoluteFirst : AbsoluteForm where
  request := getFirst
  userinfo := none
  fragment := none
  http := by decide
  other := by decide
  ports := nofun
  user_plain := nofun
  path_plain := by simp [getFirst]
  query_plain := List.not_mem_nil
  fragment_visible := nofun

theorem first_target_is_parsed : parseRequestLine getFirst.line =
  some (absoluteFirst.named Request.version) := by
  have hWords : Text.splitWhitespace getFirst.line =
    [getFirst.method, absoluteFirst.target, version] := by decide +kernel
  have hPlain : getFirst.Plain := .inl (by decide)
  exact (target_is_parsed hWords (.inl rfl) rfl rfl hPlain).1

def firstWithUser : AbsoluteForm :=
  { absoluteFirst with
    userinfo := some "u".toList
    user_plain := by
      intro text hText c hMem
      cases hText
      cases List.mem_singleton.mp hMem
      decide }

/- A user in front of the host is read as a part of the name. -/
theorem user_is_read_as_host : Text.splitWhitespace "GET http://u@a.example/ HTTP/1.1".toList =
  [getFirst.method, firstWithUser.target, Request.version] ∧
  (firstWithUser.named Request.version).authority = "a.example".toList ∧
  (parseRequestLine "GET http://u@a.example/ HTTP/1.1".toList).map
    HttpRequestLine.authority = some "u@a.example".toList := by decide +kernel

end Kourosh.Socks
