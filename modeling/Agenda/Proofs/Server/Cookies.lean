import Agenda.Proofs.Text.Trimming
import Agenda.Proofs.Tokens
import Agenda.Server.Request
import Mathlib.Data.Bool.AllAny
import Mathlib.Data.List.TakeWhile
/-!
# Tokens in cookies

A client sends the token that it was given in a cookie, and the server finds it there as it was issued.

* `Cookie.find?_of_single` — the value of the only cookie of a header.
* `Request.token?_of_cookies` — the token of a request that carries it in a cookie.
-/

namespace Agenda
namespace Cookie

/-- The only cookie of a header has its value as it is written, if neither is quoted nor holds blanks. -/
theorem find?_of_single {name value : List Char}
    (hname : ∀ c ∈ name, c ≠ ';' ∧ c ≠ '=' ∧ isHeaderBlank c = false)
    (hvalue : ∀ c ∈ value, c ≠ ';' ∧ c ≠ '"' ∧ isHeaderBlank c = false) :
    find? (String.ofList name) (String.ofList (name ++ '=' :: value)) = some (String.ofList value) := by
  have hpart : ';' ∉ name ++ '=' :: value := by
    rw [List.mem_append, List.mem_cons, not_or, not_or]
    exact ⟨fun h => (hname _ h).1 rfl, by decide, fun h => (hvalue _ h).1 rfl⟩
  have hends : ∀ {cs : List Char}, (∀ c ∈ cs, isHeaderBlank c = false) →
      Text.dropAround isHeaderBlank cs = cs := by
    intro cs hcs
    exact Text.dropAround_eq_self (fun c hc => hcs c (List.mem_of_head? hc))
      fun c hc => hcs c (List.mem_of_getLast? hc)
  have hpair : pair (name ++ '=' :: value) = (name, value) := by
    have htake : (name ++ '=' :: value).takeWhile (· != '=') = name := by
      rw [List.takeWhile_append_of_pos fun c hc => by simpa using (hname c hc).2.1]
      simp
    have hdrop : (name ++ '=' :: value).dropWhile (· != '=') = '=' :: value := by
      rw [List.dropWhile_append_of_pos fun c hc => by simpa using (hname c hc).2.1]
      simp
    simp only [pair, htake, hdrop, hends fun c hc => (hname c hc).2.2, hends fun c hc => (hvalue c hc).2.2]
  have hunquote : unquote value = value := by
    unfold unquote
    split
    · next rest => exact absurd rfl (hvalue '"' (by simp)).2.1
    · rfl
  simp [find?, values, Text.parts_of_not_mem hpart, hpair, hunquote]

end Cookie

/-- The token of a request that carries an issued token in a cookie is this token. -/
theorem Request.token?_of_cookies {r : Request} {hash key token : String} {hours : Int} {now : Moment}
    (hissue : Token.issue hash key hours now = .ok token) (hcookies : r.cookies = some ("token=" ++ token)) :
    r.token? = some token := by
  have hletters : ∀ c ∈ '.' :: Base64Url.alphabet, c ≠ ';' ∧ c ≠ '"' ∧ Cookie.isHeaderBlank c = false :=
    List.all_iff_forall_prop.mp (by decide)
  have hname : ∀ c ∈ tokenCookie.toList, c ≠ ';' ∧ c ≠ '=' ∧ Cookie.isHeaderBlank c = false :=
    List.all_iff_forall_prop.mp (by decide)
  have hheader : "token=" ++ token = String.ofList (tokenCookie.toList ++ '=' :: token.toList) := by
    rw [← String.toList_inj, String.toList_ofList, String.toList_append]
    rfl
  have hfound := Cookie.find?_of_single hname fun c hc => hletters c (Token.mem_alphabet_of_issue hissue c hc)
  rw [String.ofList_toList, String.ofList_toList] at hfound
  rw [token?, hcookies, hheader, Option.bind_some, hfound]

end Agenda
