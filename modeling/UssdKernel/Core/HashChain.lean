import Mathlib

/-!
# Chains of hashed texts

In a chain every text names the digest of the text before it.  Two chains that
end with one digest can be read backwards together: as long as no two
different texts share a digest, each step finds the same text in both, until
one of the chains has no text left.
-/

namespace UssdKernel.HashChain

variable {Text Hash : Type*}

/-- Two different texts with one digest among the given ones. -/
def Collision (hash : Text → Hash) (texts : List Text) : Prop :=
  ∃ left ∈ texts, ∃ right ∈ texts, left ≠ right ∧ hash left = hash right

/-- Every text names the digest of the text before it. -/
def Linked (hash previous : Text → Hash) (texts : List Text) : Prop :=
  texts.IsChain fun first second => previous second = hash first

/-- One list of texts is the end of the other. -/
def Aligned (left right : List Text) : Prop :=
  left <:+ right ∨ right <:+ left

variable {hash previous : Text → Hash} {left right : List Text}

theorem collision_pair {left right : Text} (hne : left ≠ right) :
    Collision hash [left, right] ↔ hash left = hash right := by
  constructor
  · rintro ⟨first, hfirst, second, hsecond, hdiffer, hsame⟩
    rw [List.mem_pair] at hfirst hsecond
    rcases hfirst with rfl | rfl <;> rcases hsecond with rfl | rfl
    · exact absurd rfl hdiffer
    · exact hsame
    · exact hsame.symm
    · exact absurd rfl hdiffer
  · intro hsame
    exact ⟨left, by simp, right, by simp, hne, hsame⟩

/-- Two chains read from their ends agree until one of them is read, or two
texts collide. -/
theorem prefix_or_collision
    (hleft : left.IsChain fun second first => previous second = hash first)
    (hright : right.IsChain fun second first => previous second = hash first)
    (hhead : ∀ text ∈ left.head?, ∀ other ∈ right.head?,
      hash text = hash other) :
    left <+: right ∨ right <+: left ∨ Collision hash (left ++ right) := by
  induction left generalizing right with
  | nil => exact Or.inl List.nil_prefix
  | cons text left ih =>
      cases right with
      | nil => exact Or.inr (Or.inl List.nil_prefix)
      | cons other right =>
          by_cases hsame : text = other
          · subst hsame
            obtain ⟨hnext, hleft⟩ := List.isChain_cons.mp hleft
            obtain ⟨hother, hright⟩ := List.isChain_cons.mp hright
            -- both chains go on with a text whose digest this one names
            rcases ih hleft hright fun first hfirst second hsecond =>
                (hnext first hfirst).symm.trans (hother second hsecond) with
              hpre | hpre | ⟨x, hx, y, hy, hcollision⟩
            · exact Or.inl (List.cons_prefix_cons.mpr ⟨rfl, hpre⟩)
            · exact Or.inr (Or.inl (List.cons_prefix_cons.mpr ⟨rfl, hpre⟩))
            · refine Or.inr (Or.inr ⟨x, ?_, y, ?_, hcollision⟩)
              · simp only [List.mem_append, List.mem_cons] at hx ⊢
                tauto
              · simp only [List.mem_append, List.mem_cons] at hy ⊢
                tauto
          · exact Or.inr (Or.inr ⟨text, by simp, other, by simp, hsame,
              hhead text rfl other rfl⟩)

/-- Chains that end with one digest are aligned, or two of their texts
collide. -/
theorem aligned_or_collision (hleft : Linked hash previous left)
    (hright : Linked hash previous right)
    (hlast : left.getLast?.map hash = right.getLast?.map hash) :
    Aligned left right ∨ Collision hash (left ++ right) := by
  have hreversed : ∀ text ∈ left.reverse.head?,
      ∀ other ∈ right.reverse.head?, hash text = hash other := by
    intro text htext other hother
    rw [List.head?_reverse, Option.mem_def] at htext hother
    simpa [htext, hother] using hlast
  rcases prefix_or_collision (List.isChain_reverse.mpr hleft)
    (List.isChain_reverse.mpr hright) hreversed with
    hpre | hpre | ⟨x, hx, y, hy, hcollision⟩
  · exact Or.inl (Or.inl (List.reverse_prefix.mp hpre))
  · exact Or.inl (Or.inr (List.reverse_prefix.mp hpre))
  · exact Or.inr ⟨x, by simpa using hx, y, by simpa using hy, hcollision⟩

/-- Aligned texts of one length are the same. -/
theorem eq_of_aligned (haligned : Aligned left right)
    (hlength : left.length = right.length) : left = right := by
  rcases haligned with hsuffix | hsuffix
  · exact hsuffix.eq_of_length hlength
  · exact (hsuffix.eq_of_length hlength.symm).symm

/-! ## Chains with a first entry -/

section Entries

variable {Entry : Type*} {digest : Entry → Hash}
variable {previous : Entry → Option Hash} {start : Option Hash}
variable {entries : List Entry} {entry : Entry} {first second : List Entry}

/-- Every entry names the digest of the entry before it, and the first one names
what the chain starts from. -/
def LinkedFrom (digest : Entry → Hash) (previous : Entry → Option Hash) :
    Option Hash → List Entry → Prop
  | _, [] => True
  | start, entry :: entries =>
      previous entry = start ∧
        LinkedFrom digest previous (some (digest entry)) entries

instance decidableLinkedFrom [DecidableEq Hash] :
    (start : Option Hash) → (entries : List Entry) →
      Decidable (LinkedFrom digest previous start entries)
  | _, [] => isTrue trivial
  | start, entry :: entries =>
      have : Decidable
          (LinkedFrom digest previous (some (digest entry)) entries) :=
        decidableLinkedFrom _ entries
      inferInstanceAs (Decidable (previous entry = start ∧ _))

theorem linkedFrom_append :
    LinkedFrom digest previous start (first ++ second) ↔
      LinkedFrom digest previous start first ∧
        LinkedFrom digest previous ((first.getLast?.map digest).or start)
          second := by
  induction first generalizing start with
  | nil => simp [LinkedFrom]
  | cons entry first ih =>
      rw [List.cons_append, LinkedFrom, LinkedFrom, ih, and_assoc]
      cases hlast : first.getLast? with
      | none | some last => simp [List.getLast?_cons, hlast]

theorem linkedFrom_concat :
    LinkedFrom digest previous start (entries ++ [entry]) ↔
      LinkedFrom digest previous start entries ∧
        previous entry = (entries.getLast?.map digest).or start := by
  rw [linkedFrom_append, LinkedFrom, LinkedFrom, and_true]

theorem LinkedFrom.of_append
    (hlinked : LinkedFrom digest previous start (first ++ second)) :
    LinkedFrom digest previous start first :=
  (linkedFrom_append.mp hlinked).1

/-- What an entry names is where the chain starts from or the digest of an entry
that is not the last one. -/
theorem LinkedFrom.previous_cases
    (hlinked : LinkedFrom digest previous start entries)
    (hentry : entry ∈ entries) :
    previous entry = start ∨
      ∃ other ∈ entries.dropLast, previous entry = some (digest other) := by
  induction entries generalizing start with
  | nil => cases hentry
  | cons first rest ih =>
      rcases List.mem_cons.mp hentry with rfl | hrest
      · exact Or.inl hlinked.1
      · have hne : rest ≠ [] := List.ne_nil_of_mem hrest
        rw [List.dropLast_cons_of_ne_nil hne]
        rcases ih hlinked.2 hrest with hfirst | ⟨other, hother, hdigest⟩
        · exact Or.inr ⟨first, List.mem_cons_self, hfirst⟩
        · exact Or.inr ⟨other, List.mem_cons_of_mem first hother, hdigest⟩

/-- If a digest determines what its entry names, no two entries of a chain name
the same. -/
theorem LinkedFrom.nodup_previous
    (hlinked : LinkedFrom digest previous none entries)
    (hdigest : ∀ left ∈ entries, ∀ right ∈ entries,
      digest left = digest right → previous left = previous right) :
    (entries.map previous).Nodup := by
  induction entries using List.reverseRecOn with
  | nil => exact List.nodup_nil
  | append_singleton entries entry ih =>
      have hnodup := ih hlinked.of_append fun left hleft right hright =>
        hdigest left (List.mem_append_left _ hleft) right
          (List.mem_append_left _ hright)
      rw [List.map_append, List.map_singleton, ← List.concat_eq_append,
        List.nodup_concat]
      refine ⟨fun hmem => ?_, hnodup⟩
      obtain ⟨other, hother, hsame⟩ := List.mem_map.mp hmem
      obtain ⟨last, hlast⟩ : ∃ last, entries.getLast? = some last :=
        Option.isSome_iff_exists.mp
          (List.getLast?_isSome.mpr (List.ne_nil_of_mem hother))
      have hentry := (linkedFrom_concat.mp hlinked).2
      rw [hlast] at hentry
      -- the entry before the other one has the digest of the last one
      rcases hlinked.of_append.previous_cases hother with
        hstart | ⟨before, hbefore, hnamed⟩
      · rw [hstart, hentry] at hsame
        cases hsame
      · have hdigests : digest before = digest last := by
          rw [hsame, hentry] at hnamed
          exact (Option.some.inj hnamed).symm
        have hprevious := hdigest before
          (List.mem_append_left _ (List.mem_of_mem_dropLast hbefore)) last
          (List.mem_append_left _ (List.mem_of_getLast? hlast)) hdigests
        rw [← List.dropLast_append_getLast? last hlast, List.map_append,
          List.map_singleton, ← List.concat_eq_append,
          List.nodup_concat] at hnodup
        exact hnodup.1 (hprevious ▸ List.mem_map_of_mem hbefore)

/-! ## Chains that are written in order -/

variable {Place : Type*} [LT Place] {place : Entry → Place}
  {IsSealed : Entry → Prop}

variable (digest previous place IsSealed) in
/-- Entries in the order of their places, linked, each with its own digest. -/
structure Chained (entries : List Entry) : Prop where
  linked : LinkedFrom digest previous none entries
  ordered : entries.Pairwise fun first second => place first < place second
  hashes : ∀ entry ∈ entries, IsSealed entry

theorem Chained.nil : Chained digest previous place IsSealed [] where
  linked := trivial
  ordered := List.Pairwise.nil
  hashes := fun _ hentry => absurd hentry List.not_mem_nil

/-- An entry that names the digest of the last one extends the chain, if it
comes after all others. -/
theorem Chained.concat
    (hentries : Chained digest previous place IsSealed entries)
    (hprevious : previous entry = entries.getLast?.map digest)
    (hplace : ∀ other ∈ entries, place other < place entry)
    (hhash : IsSealed entry) :
    Chained digest previous place IsSealed (entries ++ [entry]) where
  linked := linkedFrom_concat.mpr
    ⟨hentries.linked, by rw [hprevious, Option.or_none]⟩
  ordered := List.pairwise_append.mpr
    ⟨hentries.ordered, List.pairwise_singleton _ _,
      fun other hother last hlast =>
        List.mem_singleton.mp hlast ▸ hplace other hother⟩
  hashes := by
    intro other hother
    rcases List.mem_append.mp hother with hold | hnew
    · exact hentries.hashes other hold
    · exact List.mem_singleton.mp hnew ▸ hhash

end Entries

end UssdKernel.HashChain
