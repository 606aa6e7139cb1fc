import UssdKernel.Ledger.AuditTrail

/-!
# Changes to the audit chain

`verify_audit_chain` compares the previous hash of each row with the stored hash
of the row before it.  It declares `v_computed_hash` and never computes it.  So
it reports a row that is missing or out of its place and a changed previous
hash, and it does not see a change of any other column.
-/

namespace UssdKernel.Ledger.AuditTrail

open HashChain SortedOrders

/-- Rows of transactions one after the other: the times do not decrease, and the
identifiers come from a sequence. -/
def Serial (audits : List NewAudit) : Prop :=
  audits.Pairwise fun first second =>
    first.createdAt ≤ second.createdAt ∧ first.auditId < second.auditId

instance (audits : List NewAudit) : Decidable (Serial audits) :=
  inferInstanceAs (Decidable (audits.Pairwise _))

/-- The chain that the trigger writes. -/
def written (hashing : AuditHashing) (audits : List NewAudit) : List AuditRow :=
  audits.foldl
    (fun rows audit => rows ++ [computeAuditHash hashing rows audit]) []

/-- The texts that the rows' hashes were taken of. -/
def auditTexts (hashing : AuditHashing) (rows : List AuditRow) : List String :=
  rows.map fun row => auditText hashing row.toNewAudit row.previousAuditHash

/-- The text of the JSON object shows the value of `audit_id`. -/
def Legible (hashing : AuditHashing) : Prop :=
  ∀ first second previous previous',
    auditText hashing first previous = auditText hashing second previous' →
      first.auditId = second.auditId

/-! ## Reports -/

variable {front rest : List AuditRow}

section Change

variable (front rest) (changed : AuditRow)

/-- The first row that a change affects and the one after it.  Unaffected are
the rows of the front that the changed row still comes after. -/
def affectedRows :
    List AuditRow :=
  let sorted := (front ++ changed :: rest).insertionSort fun first second =>
    first.place ≤ second.place
  (sorted.drop (front.filter (·.place < changed.place)).length).take 2

/-- The chain is reported as broken at or right after the first affected
row. -/
def Reported : Prop :=
  let result := verifyAuditChain (front ++ changed :: rest) none none
  result.isValid = false ∧
    ∃ row ∈ affectedRows front rest changed,
      result.brokenAtAuditId = some row.auditId

/-- The changed row stands between the same rows. -/
def InPlace : Prop :=
  (∀ row ∈ front, row.place < changed.place) ∧
    ∀ row ∈ rest, changed.place < row.place

end Change

/-! ## Written chains -/

section Written

variable {hashing : AuditHashing} {audits : List NewAudit}

theorem written_concat (audit : NewAudit) :
    written hashing (audits ++ [audit]) = written hashing audits ++
      [computeAuditHash hashing (written hashing audits) audit] := by
  rw [written, List.foldl_append]
  rfl

variable (hashing audits) in
theorem map_toNewAudit_written :
    (written hashing audits).map AuditRow.toNewAudit = audits := by
  induction audits using List.reverseRecOn with
  | nil => rfl
  | append_singleton audits audit ih =>
      rw [written_concat, List.map_append, ih]
      rfl

theorem Serial.place_lt {first second : NewAudit}
    (htimes : first.createdAt ≤ second.createdAt)
    (hids : first.auditId < second.auditId) : first.place < second.place := by
  apply Prod.Lex.lt_iff.mpr
  rcases lt_or_eq_of_le htimes with hearlier | hsame
  · exact .inl hearlier
  · exact .inr ⟨hsame, hids⟩

theorem Serial.wellChained_written (hserial : Serial audits) :
    WellChained hashing (written hashing audits) := by
  induction audits using List.reverseRecOn with
  | nil => exact HashChain.Chained.nil
  | append_singleton audits audit ih =>
      obtain ⟨hearlier, -, hlast⟩ := List.pairwise_append.mp hserial
      rw [written_concat]
      refine WellChained.concat _ audit (ih hearlier) fun row hrow => ?_
      have hmem : row.toNewAudit ∈ audits := by
        rw [← map_toNewAudit_written hashing audits]
        exact List.mem_map_of_mem hrow
      obtain ⟨htimes, hids⟩ :=
        hlast row.toNewAudit hmem audit (List.mem_singleton_self audit)
      exact Serial.place_lt htimes hids

theorem Serial.pairwise_auditId (hserial : Serial audits) :
    (written hashing audits).Pairwise fun first second =>
      first.auditId < second.auditId := by
  have hids : (audits.map NewAudit.auditId).Pairwise (· < ·) :=
    List.pairwise_map.mpr (hserial.imp And.right)
  rw [← map_toNewAudit_written hashing audits,
    List.map_map, List.pairwise_map] at hids
  exact hids

end Written

/-! ## What the loop sees -/

variable {row changed : AuditRow}

section Loop

variable {hashing : AuditHashing} {rows front rest : List AuditRow}
theorem checkRows_append {total verified : ℕ} {previous : Option String}
    (hfront : LinkedFrom AuditRow.recordHash AuditRow.previousAuditHash previous
      front) (rest : List AuditRow) :
    checkRows total previous verified (front ++ rest) =
      checkRows total ((front.getLast?.map AuditRow.recordHash).or previous)
        (verified + front.length) rest := by
  induction front generalizing previous verified with
  | nil => simp
  | cons row front ih =>
      rw [List.cons_append, checkRows, if_pos hfront.1.symm, ih hfront.2,
        List.length_cons, Nat.add_assoc, Nat.add_comm 1]
      cases hlast : front.getLast? with
      | none | some last => simp [List.getLast?_cons, hlast]

/-- A verification that stops at the row. -/
def BrokenAt (result : Verification) (row : AuditRow) : Prop :=
  result.isValid = false ∧ result.brokenAtAuditId = some row.auditId

/-- The loop stops at the row after linked rows if it does not name the last of
them. -/
theorem brokenAt_checkRows (total : ℕ)
    (hfront : LinkedFrom AuditRow.recordHash AuditRow.previousAuditHash none
      front)
    (hbroken : row.previousAuditHash ≠ front.getLast?.map AuditRow.recordHash)
    (rest : List AuditRow) :
    BrokenAt (checkRows total none 0 (front ++ row :: rest)) row := by
  rw [checkRows_append hfront, Option.or_none, checkRows,
    if_neg (Ne.symm hbroken)]
  exact ⟨rfl, rfl⟩

/-- The table is read in the order of the places. -/
theorem verifyAuditChain_of_perm {sorted table : List AuditRow}
    (hordered : sorted.Pairwise fun first second => first.place < second.place)
    (hperm : sorted.Perm table) :
    table.insertionSort (fun first second => first.place ≤ second.place) =
        sorted ∧
      verifyAuditChain table none none =
        checkRows table.length none 0 sorted := by
  have heq := OrderedBy.eq_of_pairwise_lt hordered hperm
    (orderedBy_insertionSort AuditRow.place table)
  refine ⟨heq, ?_⟩
  rw [verifyAuditChain, filter_inWindow_none, heq]

end Loop

/-! ## Chains of one transaction after the other -/

/-- A chain with growing identifiers. -/
structure SerialChain (hashing : AuditHashing) (rows : List AuditRow) :
    Prop where
  chained : WellChained hashing rows
  ids : rows.Pairwise fun first second => first.auditId < second.auditId

theorem Serial.serialChain_written {hashing : AuditHashing}
    {audits : List NewAudit} (hserial : Serial audits) :
    SerialChain hashing (written hashing audits) :=
  ⟨hserial.wellChained_written, hserial.pairwise_auditId⟩

section Chains

variable {hashing : AuditHashing} {row : AuditRow}

theorem SerialChain.linked_front
    (hchain : SerialChain hashing (front ++ rest)) :
    LinkedFrom AuditRow.recordHash AuditRow.previousAuditHash none front :=
  hchain.chained.linked.of_append

theorem SerialChain.linked_rest (hchain : SerialChain hashing (front ++ rest)) :
    LinkedFrom AuditRow.recordHash AuditRow.previousAuditHash
      (front.getLast?.map AuditRow.recordHash) rest := by
  have hlinked := (linkedFrom_append.mp hchain.chained.linked).2
  rwa [Option.or_none] at hlinked

/-- No two rows have one hash. -/
def Distinct (rows : List AuditRow) : Prop :=
  rows.Pairwise fun first second => first.recordHash ≠ second.recordHash

/-- The texts of a chain show different identifiers, so equal hashes are a
collision. -/
theorem SerialChain.distinct {rows : List AuditRow}
    (hchain : SerialChain hashing rows) (hlegible : Legible hashing)
    (hcollision : ¬ Collision (generateHash hashing.sha256)
      (auditTexts hashing rows)) : Distinct rows := by
  apply hchain.ids.imp_of_mem
  intro first second hfirst hsecond hids hsame
  refine hcollision ⟨_, List.mem_map_of_mem hfirst, _,
    List.mem_map_of_mem hsecond,
    fun htexts => hids.ne (hlegible _ _ _ _ htexts), ?_⟩
  rw [← hchain.chained.hashes first hfirst,
    ← hchain.chained.hashes second hsecond, hsame]

/-- The last hash of the front is that of no row after it. -/
theorem Distinct.getLast?_ne (hdistinct : Distinct (front ++ rest))
    (hrow : row ∈ rest) :
    front.getLast?.map AuditRow.recordHash ≠ some row.recordHash := by
  intro hsame
  obtain ⟨last, hlast, hhash⟩ := Option.map_eq_some_iff.mp hsame
  exact (List.pairwise_append.mp hdistinct).2.2 last
    (List.mem_of_getLast? hlast) row hrow hhash

end Chains

/-! ## A removed row -/

/-- Without a row the one after it is reported. -/
theorem SerialChain.brokenAt_of_removed {hashing : AuditHashing}
    {front rest : List AuditRow} {row next : AuditRow}
    (hchain : SerialChain hashing (front ++ row :: next :: rest))
    (hdistinct : Distinct (front ++ row :: next :: rest)) :
    BrokenAt (verifyAuditChain (front ++ next :: rest) none none) next := by
  have hordered : (front ++ next :: rest).Pairwise fun first second =>
      first.place < second.place :=
    hchain.chained.ordered.sublist
      ((List.sublist_cons_self row _).append_left front)
  have hnext : next.previousAuditHash = some row.recordHash :=
    hchain.linked_rest.2.1
  rw [(verifyAuditChain_of_perm hordered (List.Perm.refl _)).2]
  apply brokenAt_checkRows _ hchain.linked_front
  rw [hnext]
  exact (hdistinct.getLast?_ne List.mem_cons_self).symm

/-! ## A changed row -/

section Changed

variable {hashing : AuditHashing} {front rest lower upper : List AuditRow}
variable {next : AuditRow}

/-- The changed row comes between the lower and the upper ones of the others. -/
structure Placed (front rest : List AuditRow) (changed : AuditRow)
    (lower upper : List AuditRow) : Prop where
  split : front ++ rest = lower ++ upper
  ordered : (front ++ rest).Pairwise fun first second =>
    first.place < second.place
  below : ∀ row ∈ lower, row.place < changed.place
  above : ∀ row ∈ upper, changed.place < row.place

theorem exists_placed
    (hordered : (front ++ rest).Pairwise fun first second =>
      first.place < second.place)
    (hunique : ∀ row ∈ front ++ rest, row.place ≠ changed.place) :
    ∃ lower upper, Placed front rest changed lower upper := by
  obtain ⟨lower, upper, hsplit, hbelow, habove⟩ :=
    exists_split_at hordered hunique
  exact ⟨lower, upper, hsplit, hordered, hbelow, habove⟩

theorem Placed.sorted (hplaced : Placed front rest changed lower upper) :
    (front ++ changed :: rest).insertionSort
          (fun first second => first.place ≤ second.place) =
        lower ++ changed :: upper ∧
      verifyAuditChain (front ++ changed :: rest) none none =
        checkRows (front ++ changed :: rest).length none 0
          (lower ++ changed :: upper) := by
  apply verifyAuditChain_of_perm
  · have hordered := hplaced.ordered
    rw [hplaced.split, List.pairwise_append] at hordered
    obtain ⟨hlower, hupper, hbetween⟩ := hordered
    refine List.pairwise_append.mpr
      ⟨hlower, List.pairwise_cons.mpr ⟨hplaced.above, hupper⟩, ?_⟩
    intro first hfirst second hsecond
    rcases List.mem_cons.mp hsecond with rfl | hrest
    · exact hplaced.below first hfirst
    · exact hbetween first hfirst second hrest
  · calc
      (lower ++ changed :: upper).Perm (changed :: (lower ++ upper)) :=
        List.perm_middle
      _ = changed :: (front ++ rest) := by rw [hplaced.split]
      (changed :: (front ++ rest)).Perm (front ++ changed :: rest) :=
        List.perm_middle.symm

theorem Placed.affectedRows_eq
    (hplaced : Placed front rest changed lower upper) {unaffected : ℕ}
    (hcount : (front.filter (·.place < changed.place)).length = unaffected) :
    affectedRows front rest changed =
      ((lower ++ changed :: upper).drop unaffected).take 2 := by
  rw [affectedRows, hplaced.sorted.1, hcount]

theorem length_filter_below {rows : List AuditRow}
    (hbelow : ∀ row ∈ rows, row.place < changed.place) :
    (rows.filter (·.place < changed.place)).length = rows.length := by
  rw [List.filter_eq_self.mpr fun row hrow => decide_eq_true (hbelow row hrow)]

theorem Placed.reported (hplaced : Placed front rest changed lower upper)
    (found : AuditRow)
    (hbroken : BrokenAt (checkRows (front ++ changed :: rest).length none 0
      (lower ++ changed :: upper)) found)
    (hfound : found ∈ affectedRows front rest changed) :
    Reported front rest changed := by
  rw [Reported, hplaced.sorted.2]
  exact ⟨hbroken.1, found, hfound, hbroken.2⟩

/-- The row has moved behind others: the first of them is reported. -/
theorem SerialChain.reported_of_later {moved : List AuditRow}
    (hchain : SerialChain hashing (front ++ row :: (next :: moved ++ upper)))
    (hdistinct : Distinct (front ++ row :: (next :: moved ++ upper)))
    (hplaced : Placed front (next :: moved ++ upper) changed
      (front ++ next :: moved) upper) :
    Reported front (next :: moved ++ upper) changed := by
  have hnext : next.previousAuditHash = some row.recordHash :=
    hchain.linked_rest.2.1
  have hcount : (front.filter (·.place < changed.place)).length =
      front.length :=
    length_filter_below fun other hother =>
      hplaced.below other (List.mem_append_left _ hother)
  refine hplaced.reported next ?_ ?_
  · rw [List.append_assoc]
    apply brokenAt_checkRows _ hchain.linked_front
    rw [hnext]
    exact (hdistinct.getLast?_ne List.mem_cons_self).symm
  · rw [hplaced.affectedRows_eq hcount, List.append_assoc, List.drop_left]
    exact List.mem_cons_self

/-- The row has moved before others: it is reported, or the first of them, which
does not name it. -/
theorem SerialChain.reported_of_earlier {passed : List AuditRow}
    (hchain : SerialChain hashing ((lower ++ next :: passed) ++ row :: rest))
    (hdistinct : Distinct ((lower ++ next :: passed) ++ row :: rest))
    (hhash : changed.recordHash = row.recordHash)
    (hplaced : Placed (lower ++ next :: passed) rest changed lower
      (next :: passed ++ rest)) :
    Reported (lower ++ next :: passed) rest changed := by
  have hcount : ((lower ++ next :: passed).filter
      (·.place < changed.place)).length = lower.length := by
    have hnone : (next :: passed).filter (·.place < changed.place) = [] := by
      rw [List.filter_eq_nil_iff]
      intro other hother hbelow
      exact (of_decide_eq_true hbelow).not_gt
        (hplaced.above other (List.mem_append_left rest hother))
    rw [List.filter_append, hnone, List.append_nil]
    exact length_filter_below hplaced.below
  have haffected := hplaced.affectedRows_eq hcount
  rw [List.drop_left] at haffected
  rw [List.append_assoc] at hchain hdistinct
  by_cases hprevious : changed.previousAuditHash =
      lower.getLast?.map AuditRow.recordHash
  · have hnext : next.previousAuditHash =
        lower.getLast?.map AuditRow.recordHash :=
      hchain.linked_rest.1
    have hlinked : LinkedFrom AuditRow.recordHash AuditRow.previousAuditHash
        none (lower ++ [changed]) :=
      linkedFrom_concat.mpr
        ⟨hchain.linked_front, by rw [Option.or_none, hprevious]⟩
    refine hplaced.reported next ?_ ?_
    · have hbroken : next.previousAuditHash ≠
          (lower ++ [changed]).getLast?.map AuditRow.recordHash := by
        rw [List.getLast?_concat, hnext, Option.map_some, hhash]
        exact hdistinct.getLast?_ne
          (List.mem_append_right _ List.mem_cons_self)
      have hsame : lower ++ changed :: (next :: passed ++ rest) =
          (lower ++ [changed]) ++ next :: (passed ++ rest) := by
        simp
      rw [hsame]
      exact brokenAt_checkRows _ hlinked hbroken (passed ++ rest)
    · rw [haffected]
      exact List.mem_cons_of_mem _ List.mem_cons_self
  · refine hplaced.reported changed ?_ ?_
    · exact brokenAt_checkRows _ hchain.linked_front hprevious _
    · rw [haffected]
      exact List.mem_cons_self

/-- In its place the row is reported exactly if its previous hash has changed. -/
theorem SerialChain.reported_inPlace_iff
    (hchain : SerialChain hashing (front ++ row :: rest))
    (hhash : changed.recordHash = row.recordHash)
    (hplaced : Placed front rest changed front rest) :
    Reported front rest changed ↔
      changed.previousAuditHash ≠ row.previousAuditHash := by
  have hrow : row.previousAuditHash =
      front.getLast?.map AuditRow.recordHash :=
    hchain.linked_rest.1
  constructor
  · intro hreported hsame
    have hlinked : LinkedFrom AuditRow.recordHash AuditRow.previousAuditHash
        none (front ++ changed :: rest) := by
      rw [linkedFrom_append, Option.or_none]
      exact ⟨hchain.linked_front, hsame.trans hrow,
        hhash ▸ hchain.linked_rest.2⟩
    have hvalid := (isValid_checkRows_iff
      (front ++ changed :: rest).length 0 none _).mpr hlinked
    rw [← hplaced.sorted.2, hreported.1] at hvalid
    cases hvalid
  · intro hprevious
    have hcount := length_filter_below hplaced.below
    refine hplaced.reported changed ?_ ?_
    · exact brokenAt_checkRows _ hchain.linked_front (hrow ▸ hprevious) _
    · rw [hplaced.affectedRows_eq hcount, List.drop_left]
      exact List.mem_cons_self

/-- In one of the two directions, or in its place. -/
theorem SerialChain.reported_iff
    (hchain : SerialChain hashing (front ++ row :: rest))
    (hdistinct : Distinct (front ++ row :: rest))
    (hhash : changed.recordHash = row.recordHash)
    (hunique : ∀ other ∈ front ++ rest, other.place ≠ changed.place) :
    Reported front rest changed ↔
      changed.previousAuditHash ≠ row.previousAuditHash ∨
        ¬ InPlace front rest changed := by
  have hordered : (front ++ rest).Pairwise fun first second =>
      first.place < second.place :=
    hchain.chained.ordered.sublist
      ((List.sublist_cons_self row rest).append_left front)
  by_cases hplace : InPlace front rest changed
  · rw [or_iff_left (not_not.mpr hplace)]
    exact hchain.reported_inPlace_iff hhash
      ⟨rfl, hordered, hplace.1, hplace.2⟩
  · refine iff_of_true ?_ (.inr hplace)
    obtain ⟨lower, upper, hplaced⟩ := exists_placed hordered hunique
    rcases List.append_eq_append_iff.mp hplaced.split with
      ⟨moved, hlower, hrest⟩ | ⟨passed, hfront, hupper⟩
    · cases moved with
      | nil =>
          rw [List.append_nil] at hlower
          rw [List.nil_append] at hrest
          subst hlower hrest
          exact absurd ⟨hplaced.below, hplaced.above⟩ hplace
      | cons next moved =>
          subst hlower hrest
          exact hchain.reported_of_later hdistinct hplaced
    · cases passed with
      | nil =>
          rw [List.append_nil] at hfront
          rw [List.nil_append] at hupper
          subst hfront hupper
          exact absurd ⟨hplaced.below, hplaced.above⟩ hplace
      | cons next passed =>
          subst hfront hupper
          exact hchain.reported_of_earlier hdistinct hhash hplaced

end Changed

/-- For every chain of transactions one after the other: without a row that is
not the newest the next row is reported, or two texts collide.  A change of the
hashed columns of one row is reported at or right after the first affected row,
or two texts collide, exactly if it changes the previous hash or the row's place
in the order, or two texts collide. -/
theorem tampering_reported_iff (hashing : AuditHashing)
    (hlegible : Legible hashing) (audits : List NewAudit)
    (hserial : Serial audits) :
    let rows := written hashing audits
    let collision :=
      Collision (generateHash hashing.sha256) (auditTexts hashing rows)
    (∀ front row next rest, rows = front ++ row :: next :: rest →
      BrokenAt (verifyAuditChain (front ++ next :: rest) none none) next ∨
        collision) ∧
    ∀ front row rest (changed : AuditRow), rows = front ++ row :: rest →
      changed.recordHash = row.recordHash →
      (∀ other ∈ front ++ rest, other.place ≠ changed.place) →
        (Reported front rest changed ∨ collision ↔
          (changed.previousAuditHash ≠ row.previousAuditHash ∨
            ¬ InPlace front rest changed) ∨ collision) := by
  intro rows collision
  have hchain : SerialChain hashing rows := hserial.serialChain_written
  by_cases hcollision : collision
  · exact ⟨fun _ _ _ _ _ => .inr hcollision, fun _ _ _ _ _ _ _ =>
      iff_of_true (.inr hcollision) (.inr hcollision)⟩
  · have hdistinct := hchain.distinct hlegible hcollision
    constructor
    · intro front row next rest hsplit
      rw [hsplit] at hchain hdistinct
      exact .inl (hchain.brokenAt_of_removed hdistinct)
    · intro front row rest changed hsplit hhash hunique
      rw [hsplit] at hchain hdistinct
      rw [or_iff_left hcollision, or_iff_left hcollision]
      exact hchain.reported_iff hdistinct hhash hunique

namespace Sample

theorem marked_append_inj {value other : String} {rest rest' : List Char}
    (hsame : marked value ++ rest = marked other ++ rest') : value = other := by
  have hchars : ∀ chars chars' : List Char,
      chars.flatMap (fun char => ['=', char]) ++ ';' :: rest =
          chars'.flatMap (fun char => ['=', char]) ++ ';' :: rest' →
        chars = chars' := by
    intro chars
    induction chars with
    | nil =>
        intro chars' hequal
        cases chars' with
        | nil => rfl
        | cons char chars' => simp at hequal
    | cons char chars ih =>
        intro chars' hequal
        cases chars' with
        | nil => simp at hequal
        | cons char' chars' =>
            simp only [List.flatMap_cons, List.cons_append, List.nil_append,
              List.cons.injEq, true_and] at hequal
            rw [hequal.1, ih chars' hequal.2]
  rw [marked, marked, List.append_assoc, List.append_assoc] at hsame
  exact String.toList_inj.mp (hchars _ _ hsame)

theorem legible_hashing : Legible hashing := by
  intro first second previous previous' hsame
  exact Int.repr_inj.mp (marked_append_inj (String.ofList_injective hsame))

/-- Three logins. -/
def logins : List NewAudit :=
  [⟨1, 10, content "login"⟩, ⟨2, 20, content "login"⟩,
    ⟨3, 30, content "login"⟩]

theorem tampering_reported_iff_logins :
    Legible hashing ∧ Serial logins ∧
      ∀ first second third, written hashing logins = [first, second, third] →
        BrokenAt (verifyAuditChain [first, third] none none) third ∨
          Collision (generateHash hashing.sha256)
            (auditTexts hashing (written hashing logins)) := by
  have hserial : Serial logins := by decide
  refine ⟨legible_hashing, hserial, fun first second third hrows => ?_⟩
  exact (tampering_reported_iff hashing legible_hashing logins hserial).1
    [first] second third [] hrows

/-- The second login becomes a failed one by another action. -/
def rewritten (row : AuditRow) : AuditRow :=
  { row with
    content := { row.content with
      action := "LOGOUT"
      actionStatus := .failure
      newData := some "1" } }

/-- The chain with the rewritten row verifies, and no two texts collide. -/
theorem rewritten_row_not_reported :
    verifyAuditChain
        ((written hashing logins).modify 1 rewritten) none none =
        ⟨true, 3, 3, none⟩ ∧
      (written hashing logins).modify 1 rewritten ≠
        written hashing logins ∧
      ¬ Collision (generateHash hashing.sha256)
        (auditTexts hashing (written hashing logins ++
          (written hashing logins).modify 1 rewritten)) := by
  refine ⟨by decide +kernel, by decide +kernel, ?_⟩
  unfold Collision
  decide +kernel

end Sample

end UssdKernel.Ledger.AuditTrail
