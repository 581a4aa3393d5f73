import CloudSpeech.Proofs.Http.Services

/-!
# Values of headers and what they leave of a request

A value is valid unless it holds a control character, which could end its header and begin
another. A request to an address that can be reached is built exactly if all values that are put
into it are valid: the header of a user that the address names never stands in the way.
-/

namespace CloudSpeech

namespace Text.Base64

theorem digit_mem (n : Nat) : digit n ∈ '=' :: alphabet := by
  rw [digit, List.getD_eq_getElem?_getD]
  cases hdigit : alphabet[n]? with
  | none => exact List.mem_cons_self
  | some c => exact List.mem_cons_of_mem _ (List.mem_of_getElem? hdigit)

theorem mem_of_mem_encode {octets : Octets} {c : Char} (h : c ∈ encode octets) :
    c ∈ '=' :: alphabet := by
  have hdigits : ∀ n, c ∈ digits n → c ∈ '=' :: alphabet := by
    intro n hc
    simp only [digits, List.mem_cons, List.not_mem_nil, or_false] at hc
    rcases hc with rfl | rfl | rfl | rfl <;> exact digit_mem _
  fun_induction encode octets with
  | case1 a b d rest ih =>
      rcases List.mem_append.mp h with hfirst | hrest
      · exact hdigits _ hfirst
      · exact ih hrest
  | case2 a b =>
      rcases List.mem_append.mp h with hfirst | hfill
      · exact hdigits _ (List.mem_of_mem_take hfirst)
      · exact List.mem_singleton.mp hfill ▸ List.mem_cons_self
  | case3 a =>
      rcases List.mem_append.mp h with hfirst | hfill
      · exact hdigits _ (List.mem_of_mem_take hfirst)
      · simp only [List.mem_cons, List.not_mem_nil, or_false, or_self] at hfill
        exact hfill ▸ List.mem_cons_self
  | case4 => cases h

end Text.Base64

namespace Http

/-- A text that may not be the value of a header: it holds a control character other than the
tab. -/
def Header.Garbles (text : String) : Prop :=
  ∃ b ∈ Octets.ofText text, b < 0x20 ∧ b ≠ 0x09 ∨ b = 0x7f

instance (text : String) : Decidable (Header.Garbles text) :=
  inferInstanceAs (Decidable (∃ b ∈ Octets.ofText text, _))

theorem Header.isPlain_eq_false_iff (b : UInt8) :
    isPlain b = false ↔ b < 0x20 ∧ b ≠ 0x09 ∨ b = 0x7f := by
  simp only [isPlain, Bool.or_eq_false_iff, Bool.and_eq_false_iff, decide_eq_false_iff_not,
    UInt8.not_le]
  grind

theorem Header.isValid_ofText_iff (name text : String) :
    (ofText name text).isValid = true ↔ ¬ Garbles text := by
  rw [isValid, List.all_eq_true]
  constructor
  · rintro hplain ⟨b, hb, hcontrol⟩
    cases ((isPlain_eq_false_iff b).mpr hcontrol).symm.trans (hplain b hb)
  · intro hclean b hb
    refine Bool.of_not_eq_false fun hcontrol => ?_
    exact hclean ⟨b, hb, (isPlain_eq_false_iff b).mp hcontrol⟩

namespace Request

theorem isValid_userHeader (user : Url.User) : (userHeader user).isValid = true := by
  have hscheme : (Octets.ofText "Basic ").all Header.isPlain = true := by decide
  have hdigits : ('=' :: Text.Base64.alphabet).all
      (fun c => (String.utf8EncodeChar c).all Header.isPlain) = true := by decide
  rw [userHeader, Header.ofText, Header.isValid, List.all_eq_true, Octets.ofText_append]
  intro b hb
  rcases List.mem_append.mp hb with hb | hb
  · exact List.all_eq_true.mp hscheme b hb
  · rw [Octets.ofText, String.toList_ofList, List.mem_flatMap] at hb
    obtain ⟨c, hc, hb⟩ := hb
    have hdigit := List.all_eq_true.mp hdigits c (Text.Base64.mem_of_mem_encode hc)
    exact List.all_eq_true.mp hdigit b hb

/-- The URL that requests to an address go to, and the user that the address names. -/
structure Reaches (client : Client) (address : String) (url : Url) (user : Option Url.User) :
    Prop where
  read : ∃ named, client.readUrl address = some named ∧ named.hasHost = true ∧
    named.takeUser = (url, user)
  isUsable : isUsable url = true

variable {client : Client} {address : String} {url : Url} {user : Option Url.User}

theorem Reaches.build_eq (h : Reaches client address url user) (headers : List Header)
    (body : Octets) :
    build client address headers body =
      if headers.all Header.isValid then
        .ok ⟨url, (user.map userHeader).toList ++ headers, body⟩
      else .error .invalidHeader := by
  obtain ⟨⟨named, hread, hhost, htaken⟩, husable⟩ := h
  have huser : ((user.map userHeader).toList ++ headers).all Header.isValid =
      headers.all Header.isValid := by
    cases user with
    | none => rfl
    | some user => simp [isValid_userHeader]
  simp only [build, hread, hhost, htaken, huser, husable]
  cases headers.all Header.isValid <;> rfl

end Request

end Http

end CloudSpeech
