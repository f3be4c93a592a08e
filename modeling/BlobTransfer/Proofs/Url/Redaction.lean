import BlobTransfer.Proofs.Url.Form
import BlobTransfer.Url.Redaction
import Mathlib.Data.List.Forall2

/-!
A URL that is fit for a log tells nothing of the signatures in its query: those that differ in
their signatures alone come to the same. All the rest it tells as it is.
-/

namespace BlobTransfer

theorem map_eq_of_forall₂ {α β γ : Type} {Same : α → β → Prop} {lefts : List α} {rights : List β}
    {onLeft : α → γ} {onRight : β → γ} (same : List.Forall₂ Same lefts rights)
    (each : ∀ left right, Same left right → onLeft left = onRight right) :
    lefts.map onLeft = rights.map onRight := by
  induction same with
  | nil => rfl
  | cons first _ ih => rw [List.map_cons, List.map_cons, each _ _ first, ih]

namespace Form

theorem split_ne_nil (separator : Char) (chars : List Char) : split separator chars ≠ [] := by
  cases chars with
  | nil => simp [split]
  | cons c rest =>
      rw [split]
      split
      · simp
      · split <;> simp

theorem join_split (separator : Char) (chars : List Char) :
    [separator].intercalate (split separator chars) = chars := by
  induction chars with
  | nil => rfl
  | cons c rest ih =>
      by_cases parted : c = separator
      · rw [split, if_pos parted, parted]
        cases parts : split separator rest with
        | nil => exact absurd parts (split_ne_nil separator rest)
        | cons part parts' =>
            rw [parts] at ih
            rw [List.intercalate_cons_cons, ih]
            rfl
      · rw [split, if_neg parted]
        cases parts : split separator rest with
        | nil => exact absurd parts (split_ne_nil separator rest)
        | cons part parts' =>
            rw [parts] at ih
            dsimp only
            rw [← ih]
            cases parts' <;> rfl

theorem split_inj {separator : Char} {left right : List Char}
    (same : split separator left = split separator right) : left = right := by
  rw [← join_split separator left, same, join_split]

end Form

namespace Url

def SameButSignature (left right : Form.Pair) : Prop :=
  left.1 = right.1 ∧ (isSignature left.1 = true ∨ left.2 = right.2)

/-- The same URL but for the values of signatures. How the names and the other values are escaped
matters only where there are no signatures. -/
structure SameButSignatures (left right : Url) : Prop where
  scheme : left.scheme = right.scheme
  authority : left.authority = right.authority
  path : left.path = right.path
  fragment : left.fragment = right.fragment
  pairs : List.Forall₂ SameButSignature left.pairs right.pairs
  unsigned : (∀ pair ∈ left.pairs, isSignature pair.1 = false) → left.query = right.query

def SamePart (left right : List Char) : Prop :=
  left = right ∨ left.takeWhile (· ≠ '=') = right.takeWhile (· ≠ '=') ∧
    isSignature (Form.decode (left.takeWhile (· ≠ '='))) = true

variable {left right : Url} {lefts rights : List Form.Pair}

theorem hidePair_of_same {pair other : Form.Pair} (same : SameButSignature pair other) :
    hidePair pair = hidePair other := by
  obtain ⟨name, value⟩ := same
  unfold hidePair
  rw [← name]
  split
  · rfl
  · rename_i plain
    exact Prod.ext name (value.resolve_left plain)

theorem any_signature_of_same (same : List.Forall₂ SameButSignature lefts rights) :
    (lefts.any fun pair => isSignature pair.1) = rights.any fun pair => isSignature pair.1 := by
  have named : ∀ pairs : List Form.Pair, (pairs.any fun pair => isSignature pair.1) =
      (pairs.map fun pair => isSignature pair.1).any id := by
    intro pairs
    rw [List.any_map]
    rfl
  rw [named, named, map_eq_of_forall₂ same fun pair other alike => congrArg isSignature alike.1]

theorem SameButSignatures.redact (same : left.SameButSignatures right) :
    left.redact = right.redact := by
  obtain ⟨scheme, authority, path, fragment, pairs, unsigned⟩ := same
  unfold Url.redact
  rw [← any_signature_of_same pairs]
  split
  · rw [map_eq_of_forall₂ pairs fun pair other => hidePair_of_same]
    simp only [Url.withPairs, scheme, authority, path, fragment]
  · rename_i plain
    have queries : left.query = right.query := by
      apply unsigned
      intro pair member
      simpa using (List.any_eq_false.mp (Bool.eq_false_iff.mpr plain)) pair member
    cases left
    cases right
    simp_all

/-! What the texts of two queries must have in common. -/

theorem sameButSignature_of_part {part other : List Char} (same : SamePart part other) :
    SameButSignature (Form.decodePair part) (Form.decodePair other) := by
  rcases same with rfl | ⟨name, signature⟩
  · exact ⟨rfl, .inr rfl⟩
  · exact ⟨congrArg Form.decode name, .inl signature⟩

theorem isEmpty_of_signature {part : List Char}
    (signature : isSignature (Form.decode (part.takeWhile (· ≠ '='))) = true) :
    part.isEmpty = false := by
  cases part with
  | nil => exact absurd signature (by decide)
  | cons _ _ => rfl

theorem isEmpty_of_part {part other : List Char} (same : SamePart part other) :
    part.isEmpty = other.isEmpty := by
  rcases same with rfl | ⟨name, signature⟩
  · rfl
  · rw [isEmpty_of_signature signature, isEmpty_of_signature (name ▸ signature)]

theorem pairs_of_parts {parts others : List (List Char)}
    (same : List.Forall₂ SamePart parts others) :
    List.Forall₂ SameButSignature
      ((parts.filter fun part => !part.isEmpty).map Form.decodePair)
      ((others.filter fun part => !part.isEmpty).map Form.decodePair) := by
  induction same with
  | nil => exact .nil
  | cons first _ ih =>
      rw [List.filter_cons, List.filter_cons, isEmpty_of_part first]
      split
      · exact .cons (sameButSignature_of_part first) ih
      · exact ih

theorem parts_of_unsigned {parts others : List (List Char)}
    (same : List.Forall₂ SamePart parts others)
    (unsigned : ∀ pair ∈ (parts.filter fun part => !part.isEmpty).map Form.decodePair,
      isSignature pair.1 = false) : parts = others := by
  induction same with
  | nil => rfl
  | @cons part other parts others first _ ih =>
      have equal : part = other := by
        rcases first with same | ⟨_, signature⟩
        · exact same
        · have full := isEmpty_of_signature signature
          have plain := unsigned (Form.decodePair part) (by simp [full])
          exact absurd (plain.symm.trans signature) (by decide)
      have further : ∀ pair ∈ (parts.filter fun part => !part.isEmpty).map Form.decodePair,
          isSignature pair.1 = false := by
        intro pair member
        apply unsigned
        rw [List.filter_cons]
        split
        · exact List.mem_cons_of_mem _ member
        · exact member
      rw [equal, ih further]

theorem sameButSignatures_of_parts (url : Url) {query other : String}
    (same : List.Forall₂ SamePart (Form.split '&' query.toList) (Form.split '&' other.toList)) :
    ({ url with query := some query } : Url).SameButSignatures
      { url with query := some other } where
  scheme := rfl
  authority := rfl
  path := rfl
  fragment := rfl
  pairs := pairs_of_parts same
  unsigned := by
    intro unsigned
    have equal := Form.split_inj (parts_of_unsigned same unsigned)
    rw [String.toList_inj.mp equal]

/-! What becomes of the pairs of one URL. -/

def Signed (url : Url) : Prop := ∃ pair ∈ url.pairs, isSignature pair.1 = true

theorem isSignature_hidePair (pair : Form.Pair) :
    isSignature (hidePair pair).1 = isSignature pair.1 := by
  unfold hidePair
  split <;> rfl

theorem hidePair_hidePair (pair : Form.Pair) : hidePair (hidePair pair) = hidePair pair := by
  by_cases signature : isSignature pair.1 = true <;> simp [hidePair, signature]

theorem redact_of_signed {url : Url} (signed : url.Signed) :
    url.redact = url.withPairs (url.pairs.map hidePair) := by
  rw [redact, if_pos (List.any_eq_true.mpr signed)]

theorem redact_of_unsigned {url : Url} (unsigned : ¬url.Signed) : url.redact = url := by
  rw [redact, if_neg fun signed => unsigned (List.any_eq_true.mp signed)]

theorem Signed.redact {url : Url} (signed : url.Signed) : url.redact.Signed := by
  obtain ⟨pair, member, signature⟩ := signed
  refine ⟨hidePair pair, ?_, (isSignature_hidePair pair).trans signature⟩
  rw [redact_of_signed ⟨pair, member, signature⟩, pairs_withPairs]
  exact List.mem_map_of_mem member

theorem withPairs_withPairs (url : Url) (pairs others : List Form.Pair) :
    (url.withPairs pairs).withPairs others = url.withPairs others := rfl

theorem redact_redact (url : Url) : url.redact.redact = url.redact := by
  by_cases signed : url.Signed
  · have twice : hidePair ∘ hidePair = hidePair := by
      funext pair
      rw [Function.comp_apply, hidePair_hidePair]
    rw [redact_of_signed signed.redact, redact_of_signed signed, pairs_withPairs, List.map_map,
      twice, withPairs_withPairs]
  · rw [redact_of_unsigned signed, redact_of_unsigned signed]

/-- A URL without signatures is fit for a log as it is. From one with signatures, all pairs come
out in their order and all other parts as they were, with the values of the signatures hidden and
no others. To redact again changes nothing, and nothing but the hidden values is told of what the
query was: URLs that agree in the rest come to the same. -/
theorem redaction_hides_signatures_alone (url : Url) :
    (¬url.Signed → url.redact = url) ∧
    (url.Signed →
      url.redact.pairs = url.pairs.map (fun pair =>
        if Ascii.sameIgnoringCase pair.1 "sig" then (pair.1, "REDACTED") else pair) ∧
      { url.redact with query := url.query } = url) ∧
    url.redact.redact = url.redact ∧
    ∀ other : Url, { other with query := url.query } = url →
      other.pairs.map hidePair = url.pairs.map hidePair → url.Signed → other.Signed →
      other.redact = url.redact := by
  refine ⟨redact_of_unsigned, fun signed => ?_, redact_redact url, ?_⟩
  · rw [redact_of_signed signed, pairs_withPairs]
    exact ⟨rfl, rfl⟩
  · intro other beside hidden signed signed'
    rw [redact_of_signed signed, redact_of_signed signed', hidden, ← beside]
    rfl

theorem escaped_signatures_are_hidden :
    let url : Url := {
      scheme := "https", authority := some { host := .name "main.example" }
      path := .segments ["blob"], query := some "sv=1+0&Si%67=c2Vj%2B&&sig"
      fragment := some "top" }
    let other : Url := { url with query := some "sv=1%200&Sig=forged&sig=again" }
    url.Signed ∧ other.Signed ∧
    url.redact.query = some "sv=1+0&Sig=REDACTED&sig=REDACTED" ∧
    url.redact.pairs = [("sv", "1 0"), ("Sig", "REDACTED"), ("sig", "REDACTED")] ∧
    url.redact.redact = url.redact ∧ other.redact = url.redact := by
  intro url other
  have signed : url.Signed := ⟨("sig", ""), by decide +kernel, by decide +kernel⟩
  have signed' : other.Signed := ⟨("sig", "again"), by decide +kernel, by decide +kernel⟩
  obtain ⟨_, changed, again, alike⟩ := redaction_hides_signatures_alone url
  refine ⟨signed, signed', by decide +kernel, (changed signed).1.trans (by decide +kernel), again,
    alike other rfl (by decide +kernel) signed signed'⟩

end Url

end BlobTransfer
