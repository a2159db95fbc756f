/-
Module: SpriteStage.Proofs.Json.Decision
Purpose: The first problem decides. Every way of reading is steady: while a text grows, a reader that has
  read something, or has found something wrong, stays with it, and only what failed because the text
  ended can come out differently. So if a text that does not end within a number fails for another
  reason, all its continuations fail for the same one.
Main exports: Decides, Steady, refuse_steady, readText_steady, readFloat_steady, readNat_steady,
  readOption_steady, readList_steady, readRecord_steady, readDocument_decides
-/
import SpriteStage.Json.Read
import SpriteStage.Proofs.Json.Growth

namespace SpriteStage.Json

/-! ## Decisions -/

/-- What comes of reading something, and what comes of it when more has been read: only what failed for
want of more can come out differently. -/
def Decides (early late : Except Fault α) : Prop := early = .error .ended ∨ late = early

theorem Decides.same (result : Except Fault α) : Decides result result := Or.inr rfl

theorem Decides.bind {early late : Except Fault α} {use useLate : α → Except Fault β}
    (first : Decides early late) (second : ∀ a, Decides (use a) (useLate a)) :
    Decides (early >>= use) (late >>= useLate) := by
  rcases first with rfl | rfl
  · exact Or.inl rfl
  · cases late with
    | error fault => exact .same _
    | ok a => exact second a

theorem Decides.map {early late : Except Fault α} (first : Decides early late) (use : α → β) :
    Decides (use <$> early) (use <$> late) := by
  rcases first with rfl | rfl
  · exact Or.inl rfl
  · exact .same _

/-! ## Texts -/

/-- Pieces that were cut short are wrong already or still lack something. -/
theorem decodePieces_decides (pieces more : List Piece) (fault : Option Fault) :
    Decides (decodePieces (some .ended) pieces) (decodePieces fault (pieces ++ more)) := by
  fun_induction decodePieces (some .ended) pieces with
  | case1 cut given =>
      cases given
      exact Or.inl rfl
  | case2 given => cases given
  | case3 byte rest further => exact further.bind fun _ => .same _
  | case4 byte rest further => exact further.bind fun _ => .same _
  | case5 high isHigh low rest isLow further =>
      simp only [List.cons_append, decodePieces, isHigh, isLow, and_self, if_true]
      exact further.bind fun _ => .same _
  | case6 high isHigh low rest notLow =>
      simp only [List.cons_append, decodePieces, isHigh, notLow, and_self, if_true, if_false]
      exact .same _
  | case7 high isHigh => exact Or.inl rfl
  | case8 high rest isHigh noUnit notEmpty =>
      cases rest with
      | nil => exact absurd rfl notEmpty
      | cons piece rest =>
          cases piece with
          | unit low => exact absurd rfl (noUnit low rest)
          | _ =>
              simp only [List.cons_append, decodePieces, isHigh, and_self, if_true]
              exact .same _
  | case9 low rest notHigh isLow =>
      unfold decodePieces
      simp only [List.cons_append, notHigh, isLow, and_self, if_true, if_false]
      exact .same _
  | case10 code rest notHigh notLow further =>
      have later : decodePieces fault (.unit code :: (rest ++ more)) =
          decodePieces fault (rest ++ more) >>= fun bytes => pure (encode code ++ bytes) := by
        rw [decodePieces.eq_def]
        simp only [notHigh, notLow, if_false]
      rw [List.cons_append, later]
      exact further.bind fun _ => .same _

theorem Text.GrowsTo.decode {early late : Text} (grows : early.GrowsTo late) :
    Decides early.decode late.decode := by
  cases grows with
  | same => exact .same _
  | more pieces more fault => exact (decodePieces_decides pieces more fault).bind fun _ => .same _

/-! ## Values -/

/-- A reader that decides as soon as it can: once it has read something or has found a fault, nothing that
is read later changes that. -/
def Steady (read : Node → Except Fault α) : Prop :=
  ∀ {early late : Node}, early.GrowsTo late → Decides (read early) (read late)

/-- A value of the wrong kind is refused with the same fault later. -/
theorem refuse_steady : Steady fun node => (.error node.refuse : Except Fault α) := by
  intro early late grows
  cases grows with
  | same => exact .same _
  | begun => exact Or.inl rfl
  | array => exact .same _
  | object => exact .same _
  | text grows =>
      rcases grows.decode with none | same
      · exact Or.inl (by simp [Node.refuse, none])
      · simp only [Node.refuse, same]
        exact .same _

theorem readText_steady : Steady Node.readText := by
  intro early late grows
  cases grows with
  | same => exact .same _
  | begun => exact Or.inl rfl
  | array => exact .same _
  | object => exact .same _
  | text grows => exact grows.decode

theorem readFloat_steady : Steady Node.readFloat := by
  intro early late grows
  have refused := @refuse_steady Float _ _ grows
  cases grows with
  | same => exact .same _
  | begun => exact Or.inl rfl
  | array | object | text => exact refused

theorem readNat_steady (limit : Nat) : Steady (Node.readNat limit) := by
  intro early late grows
  have refused := @refuse_steady Nat _ _ grows
  cases grows with
  | same => exact .same _
  | begun => exact Or.inl rfl
  | array | object | text => exact refused

theorem readOption_steady {read : Node → Except Fault α} (steady : Steady read)
    (begun : read (.broken .ended) = .error .ended) : Steady (Node.readOption read) := by
  intro early late grows
  have reads := (steady grows).map some
  cases grows with
  | same => exact .same _
  | begun => exact Or.inl (by simp only [Node.readOption, begun]; rfl)
  | array | object | text => exact reads

mutual

theorem Node.skip_steady {early late : Node} : early.GrowsTo late → Decides early.skip late.skip
  | .same _ => .same _
  | .begun _ => Or.inl rfl
  | .text (.same _) => .same _
  | .text (.more _ _ _) => Or.inl rfl
  | .array grows => Items.skip_steady grows
  | .object grows => Members.skip_steady grows

theorem Items.skip_steady {early late : Items} : early.GrowsTo late → Decides early.skip late.skip
  | .same _ => .same _
  | .begun _ => Or.inl rfl
  | .item grows rest => (Node.skip_steady grows).bind fun _ => Items.skip_steady rest

theorem Members.skip_steady {early late : Members} : early.GrowsTo late → Decides early.skip late.skip
  | .same _ => .same _
  | .begun _ => Or.inl rfl
  | .member (.more _ _ _) _ _ => Or.inl rfl
  | .member (.same key) grows rest => by
      simp only [Members.skip]
      cases key.fault with
      | some fault => exact .same _
      | none => exact (Node.skip_steady grows).bind fun _ => Members.skip_steady rest

end

mutual

theorem Node.inspect_steady {early late : Node} : (depth : Nat) → early.GrowsTo late →
    Decides (early.inspect depth) (late.inspect depth)
  | _, .same _ => .same _
  | _, .begun _ => Or.inl rfl
  | _, .text grows => grows.decode.bind fun _ => .same _
  | depth, .array grows => by
      simp only [Node.inspect]
      split
      · exact .same _
      · exact Items.inspect_steady (depth - 1) grows
  | depth, .object grows => by
      simp only [Node.inspect]
      split
      · exact .same _
      · exact Members.inspect_steady (depth - 1) grows

theorem Items.inspect_steady {early late : Items} : (depth : Nat) → early.GrowsTo late →
    Decides (early.inspect depth) (late.inspect depth)
  | _, .same _ => .same _
  | _, .begun _ => Or.inl rfl
  | depth, .item grows rest =>
    (Node.inspect_steady depth grows).bind fun _ => Items.inspect_steady depth rest

theorem Members.inspect_steady {early late : Members} : (depth : Nat) → early.GrowsTo late →
    Decides (early.inspect depth) (late.inspect depth)
  | _, .same _ => .same _
  | _, .begun _ => Or.inl rfl
  | depth, .member key grows rest =>
    key.decode.bind fun _ => (Node.inspect_steady depth grows).bind fun _ =>
      Members.inspect_steady depth rest

end

/-! ## Lists and records -/

theorem Items.readAll_steady {read : Node → Except Fault α} (steady : Steady read) {early late : Items} :
    early.GrowsTo late → Decides (early.readAll read) (late.readAll read)
  | .same _ => .same _
  | .begun _ => Or.inl rfl
  | .item grows rest => (steady grows).bind fun _ => (readAll_steady steady rest).bind fun _ => .same _

theorem readList_steady {read : Node → Except Fault α} (steady : Steady read) :
    Steady (Node.readList read) := by
  intro early late grows
  have refused := @refuse_steady (List α) _ _ grows
  cases grows with
  | same => exact .same _
  | array grows => exact Items.readAll_steady steady grows
  | begun => exact Or.inl rfl
  | object | text => exact refused

theorem Members.readFields_steady {fields : List (RecordField δ)}
    (steady : ∀ field ∈ fields, ∀ draft, Steady fun node => field.read node draft)
    {early late : Members} : (draft : δ) → early.GrowsTo late →
      Decides (early.readFields fields draft) (late.readFields fields draft)
  | _, .same _ => .same _
  | _, .begun _ => Or.inl rfl
  | draft, .member key grows rest => by
      refine key.decode.bind fun name => ?_
      cases asked : fields.find? fun field => field.name = name with
      | none => exact (Node.skip_steady grows).bind fun _ => readFields_steady steady draft rest
      | some field =>
          simp only
          split
          · exact .same _
          · exact (steady field (List.mem_of_find?_eq_some asked) draft grows).bind fun draft =>
              readFields_steady steady draft rest

theorem Items.readFields_steady {fields : List (RecordField δ)}
    (steady : ∀ field ∈ fields, ∀ draft, Steady fun node => field.read node draft)
    {early late : Items} (draft : δ) (grows : early.GrowsTo late) :
      Decides (Items.readFields fields early draft) (Items.readFields fields late draft) := by
  induction fields generalizing early late draft with
  | nil =>
    cases grows with
    | same => exact .same _
    | begun => exact Or.inl rfl
    | item => exact .same _
  | cons field fields more =>
    cases grows with
    | same => exact .same _
    | begun => exact Or.inl rfl
    | item grows rest =>
      exact (steady field List.mem_cons_self draft grows).bind fun draft =>
        more (fun other member => steady other (List.mem_cons_of_mem _ member)) draft rest

theorem readRecord_steady {fields : List (RecordField δ)}
    (steady : ∀ field ∈ fields, ∀ draft, Steady fun node => field.read node draft) (draft : δ) :
    Steady (Node.readRecord fields draft) := by
  intro early late grows
  have refused := @refuse_steady δ _ _ grows
  cases grows with
  | same => exact .same _
  | array grows => exact Items.readFields_steady steady draft grows
  | object grows => exact Members.readFields_steady steady draft grows
  | begun => exact Or.inl rfl
  | text => exact refused

/-! ## Whole texts -/

/-- If a text that does not end within a number fails with any fault but an early end, so does every
continuation of it. -/
theorem readDocument_decides {read : Node → Except Fault α} (steady : Steady read) {bytes : List UInt8}
    (ends : ∀ b, bytes.getLast? = some b → inNumber b = false) {fault : Fault} (decided : fault ≠ .ended)
    (fails : readDocument read bytes = .error fault) (more : List UInt8) :
    readDocument read (bytes ++ more) = .error fault := by
  obtain ⟨grows, trails⟩ := scan_grows ends more
  simp only [readDocument] at fails ⊢
  cases trailing : (scan bytes).trailing with
  | true => rw [trails trailing]; exact fails
  | false =>
    have failed : read (scan bytes).node = .error fault := by
      cases result : read (scan bytes).node with
      | error other =>
        rw [result] at fails
        cases fails
        rfl
      | ok value =>
        simp only [result, trailing] at fails
        cases fails
    rcases steady grows with early | same
    · rw [failed] at early
      cases early
      exact absurd rfl decided
    · rw [same, failed]
      rfl

end SpriteStage.Json
