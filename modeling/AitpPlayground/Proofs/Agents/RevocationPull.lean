import AitpPlayground.Proofs.Agents.ControlPlane
import AitpPlayground.Proofs.Agents.RevocationServe

/-!
# `AitpPlayground.Proofs.Agents.RevocationPull`: a pull that replaces the list or keeps it

The answer of the control plane goes through subscripts and one loop, and `_pull` catches three
classes of exceptions. `pull_jtis_iff` says what it makes of every answer: entries for a
well-formed one, no entries for an empty object or text in their place (`EmptyNonArray`), and
otherwise a refusal or an exception that is not caught (`pull_raised_iff`).

`pull_settles_iff` is about the refresh as a whole, `refreshRevocations`, in every reachable
state. A refresh replaces the list (`Replaced`) or keeps it (`Kept`), with two exceptions:

* An empty object or text is signed as a list without entries (`empty_object_replaces_list`).
* A list that was published and never applied stays out of force when the refresh raises, or
  when the pull is refused and the list is of an earlier AID.

`refresh_reaches` ties `refreshRevocations` to the coroutine of `agentStep`.
-/

set_option autoImplicit false

namespace AitpPlayground.Proofs.Agents

open AitpPlayground.Lib
open AitpPlayground.Agents

variable {sdk : Sdk} {py : PyLib} {aid : String} {answer : Answer} {l : IssuerRevocationList}
  {r : RevocationState} {now : ℚ} {signSalt salt : Nat}

/-! ### The statement -/

/-- An entry of the body that can be signed: an object with a UUID and an integer. -/
def EntryAs (py : PyLib) (raw : Json) (jti : String) : Prop :=
  ∃ d text revokedAt at_, raw.dict? = some d ∧ d.get? "jti" = some (.str text) ∧
    py.uuidStr text = .ok jti ∧ d.get? "revoked_at" = some revokedAt ∧ py.int revokedAt = .ok at_

/-- The answer is a 200 with an object for the issuer `aid`, and this is its `entries`. -/
def AnswersWith (aid : String) (answer : Answer) (entries : Json) : Prop :=
  ∃ body d, answer = .response 200 (.ok body) ∧ body.dict? = some d ∧
    d.get? "iss" = some (.str aid) ∧ d.get? "entries" = some entries

/-- The answer names these jtis, in this order. -/
def WellFormed (py : PyLib) (aid : String) (answer : Answer) (jtis : List String) : Prop :=
  ∃ items, AnswersWith aid answer (.arr items) ∧ List.Forall₂ (EntryAs py) items jtis

/-- The `entries` of the answer are no array, but a loop over them ends at once. -/
def EmptyNonArray (aid : String) (answer : Answer) : Prop :=
  AnswersWith aid answer (.obj []) ∨ AnswersWith aid answer (.str "")

/-- A `jti` that has no `replace`, or after a UUID an infinite `revoked_at`. -/
def EntryEscapes (py : PyLib) (raw : Json) : Prop :=
  ∃ d jti, raw.dict? = some d ∧ d.get? "jti" = some jti ∧
    ((jti ≠ .null ∧ ∀ text, jti ≠ .str text) ∨
      ∃ text uuid neg, jti = .str text ∧ py.uuidStr text = .ok uuid ∧
        d.get? "revoked_at" = some (.num (.float (.inf neg))))

/-- The exceptions that `_pull` does not catch. -/
def UncaughtByPull (exc : PyErr) : Prop :=
  (∀ key, exc ≠ .keyError key) ∧ (∀ msg, exc ≠ .typeError msg) ∧
    ∀ msg code, exc ≠ .valueError msg code

/-- The answers that end the pull with an exception that is not caught. -/
def PullEscapes (py : PyLib) (aid : String) (answer : Answer) : Prop :=
  (∃ status exc, answer = .response status (.error exc) ∧ status ≠ 200 ∧
    (∀ msg code, exc ≠ .valueError msg code) ∧ ∀ msg, exc ≠ .attributeError msg) ∨
  (∃ exc, answer = .response 200 (.error exc) ∧ UncaughtByPull exc) ∨
  ∃ before raw after, AnswersWith aid answer (.arr (before ++ raw :: after)) ∧
    (∀ e ∈ before, ∃ jti, EntryAs py e jti) ∧ EntryEscapes py raw

/-- The SDK does not sign the entries of the answer. -/
def SigningRefused (sdk : Sdk) (py : PyLib) (l : IssuerRevocationList) (aid : String)
    (answer : Answer) (salt : Nat) : Prop :=
  ∃ container items entries exc, AnswersWith aid answer container ∧ container.iter = .ok items ∧
    items.mapM (entryOf py) = .ok entries ∧ sign sdk py aid l.ttlSecs entries salt = .error exc

/-- The snapshot in force has the entries of the list. -/
def Enforces (py : PyLib) (r : RevocationState) (list : SignedList) : Prop :=
  ∃ jtis publishedAt expiresAt snap,
    readEnvelope py list.envelopeJson = .ok (jtis, publishedAt, expiresAt) ∧
    r.snapshot = some snap ∧ snap.entries = jtis.toFinset

/-- The current list is not expired, and its entries are not those in force. -/
def Unenforced (py : PyLib) (l : IssuerRevocationList) (r : RevocationState) (now : ℚ) : Prop :=
  ∃ list, l.current = some list ∧ list.isExpired now = false ∧ ¬Enforces py r list

/-- The list was replaced: the answer is well formed, and the new list and the snapshot have
its jtis, the list in their order. -/
def Replaced (py : PyLib) (aid : String) (answer : Answer) (l' : IssuerRevocationList)
    (r' : RevocationState) : Prop :=
  ∃ jtis list publishedAt expiresAt snap, WellFormed py aid answer jtis ∧
    l'.current = some list ∧ list.entryCount = jtis.length ∧
    readEnvelope py list.envelopeJson = .ok (jtis, publishedAt, expiresAt) ∧
    r'.snapshot = some snap ∧ snap.entries = jtis.toFinset

/-- The list was kept: the current list is as it was, and what is in force are its entries or,
when it is absent or expired, those that were in force before. -/
def Kept (py : PyLib) (l l' : IssuerRevocationList) (r r' : RevocationState) (now : ℚ) : Prop :=
  l'.current = l.current ∧
    ((∃ list, l.current = some list ∧ Enforces py r' list) ∨
      ((∀ list, l.current = some list → list.isExpired now = true) ∧
        r'.snapshot.map Snapshot.entries = r.snapshot.map Snapshot.entries))

/-- The list was replaced or kept. -/
def AllOrNothing (py : PyLib) (aid : String) (answer : Answer) (l l' : IssuerRevocationList)
    (r r' : RevocationState) (now : ℚ) : Prop :=
  Replaced py aid answer l' r' ∨ Kept py l l' r r' now

/-- The answers and states for which a refresh replaces the list or keeps it. -/
def PullSettles (sdk : Sdk) (py : PyLib) (l : IssuerRevocationList) (r : RevocationState)
    (aid : String) (answer : Answer) (now : ℚ) (salt : Nat) : Prop :=
  -- A list that is not in force yet gets there, unless the refresh does not come that far.
  (Unenforced py l r now →
    ¬PullEscapes py aid answer ∧ ¬SigningRefused sdk py l aid answer salt ∧
      ((∃ list, l.current = some list ∧ list.signerAid = aid) ∨
        (∃ jtis, WellFormed py aid answer jtis) ∨ EmptyNonArray aid answer)) ∧
  -- An empty object or text does not replace the list, unless by the very same one.
  (EmptyNonArray aid answer →
    ∀ list, sign sdk py aid l.ttlSecs [] salt = .ok list → l.current = some list)

/-- What the SDK promises about its own lists where one is looked at: an envelope has the entries
that were signed, and it verifies before its end. -/
structure OwnListsVerify (sdk : Sdk) (py : PyLib) (now : ℚ) (salt : Nat) : Prop where
  reads : ∀ {aid ttlSecs entries salt' list}, sign sdk py aid ttlSecs entries salt' = .ok list →
    ∃ publishedAt expiresAt, readEnvelope py list.envelopeJson =
      .ok (entries.map Entry.jti, publishedAt, expiresAt)
  verifies : ∀ {aid ttlSecs entries salt' list}, sign sdk py aid ttlSecs entries salt' = .ok list →
    now < list.expiresAt → sdk.verifyRevocationList list.envelopeJson list.signerAid salt = .ok ()

/-- What the SDK promises about its own lists in a refresh that ends at `now`: they can be looked
at, and with a time to live the end of the new list is not reached yet. -/
structure OwnLists (sdk : Sdk) (py : PyLib) (now : ℚ) (signSalt salt : Nat) : Prop
    extends OwnListsVerify sdk py now salt where
  outlives : ∀ {aid ttlSecs entries list}, 0 < ttlSecs →
    sign sdk py aid ttlSecs entries signSalt = .ok list → now < list.expiresAt

/-- The list was signed by the SDK. -/
def Signed (sdk : Sdk) (py : PyLib) (list : SignedList) : Prop :=
  ∃ aid ttlSecs entries salt, sign sdk py aid ttlSecs entries salt = .ok list

/-! ### Entries -/

/-- The subscript of an object. -/
theorem item_eq_ok {key : String} {raw value : Json} :
    raw.item key = .ok value ↔ ∃ d, raw.dict? = some d ∧ d.get? key = some value := by
  unfold Json.item
  cases raw.dict? with
  | none => simp
  | some d => cases hget : d.get? key <;> simp [hget]

/-- A subscript raises nothing that `_pull` does not catch. -/
theorem item_caught {key : String} {raw : Json} {exc : PyErr} (h : raw.item key = .error exc) :
    ¬UncaughtByPull exc := by
  unfold Json.item at h
  rintro ⟨hkey, htype, -⟩
  cases hdict : raw.dict? with
  | none =>
    rw [hdict] at h
    cases h
    exact htype _ rfl
  | some d =>
    cases hget : d.get? key with
    | none =>
      simp only [hdict, hget] at h
      cases h
      exact hkey _ rfl
    | some value => simp [hdict, hget] at h

/-- The reason of an entry, which is a text if it is there. -/
theorem entryOf_eq_ok {raw : Json} {e : Entry} :
    entryOf py raw = .ok e ↔ ∃ x jti y revokedAt, raw.item "jti" = .ok x ∧ uuidOf py x = .ok jti ∧
      raw.item "revoked_at" = .ok y ∧ py.int y = .ok revokedAt ∧
      e = { jti, revokedAt, reason := (raw.dict?.bind fun d => d.get? "reason").bind fun r =>
        if r = .null then none else some (py.strOf r) } := by
  unfold entryOf
  simp only [except_bind_eq_ok, pure, Except.pure, Except.ok.injEq]
  constructor
  · rintro ⟨x, hx, jti, hjti, y, hy, revokedAt, hat, rfl⟩
    exact ⟨x, jti, y, revokedAt, hx, hjti, hy, hat, rfl⟩
  · rintro ⟨x, jti, y, revokedAt, hx, hjti, hy, hat, rfl⟩
    exact ⟨x, hx, jti, hjti, y, hy, revokedAt, hat, rfl⟩

/-- Only a text is a UUID. -/
theorem uuidOf_eq_ok {x : Json} {jti : String} :
    uuidOf py x = .ok jti ↔ ∃ text, x = .str text ∧ py.uuidStr text = .ok jti := by
  cases x <;> simp [uuidOf]

/-- An entry is read if and only if it can be signed. -/
theorem entryOf_ok_iff {raw : Json} {jti : String} :
    (∃ e, entryOf py raw = .ok e ∧ e.jti = jti) ↔ EntryAs py raw jti := by
  simp only [entryOf_eq_ok, item_eq_ok, uuidOf_eq_ok]
  constructor
  · rintro ⟨e, ⟨x, jti', y, revokedAt, ⟨d, hdict, hx⟩, ⟨text, rfl, huuid⟩, ⟨d', hdict', hy⟩, hat,
      rfl⟩, rfl⟩
    cases hdict.symm.trans hdict'
    exact ⟨d, text, y, revokedAt, hdict, hx, huuid, hy, hat⟩
  · rintro ⟨d, text, y, revokedAt, hdict, hx, huuid, hy, hat⟩
    exact ⟨_, ⟨.str text, jti, y, revokedAt, ⟨d, hdict, hx⟩, ⟨text, rfl, huuid⟩, ⟨d, hdict, hy⟩,
      hat, rfl⟩, rfl⟩

/-- `uuid.UUID` escapes on a value that has no `replace`. -/
theorem uuidOf_uncaught_iff (hpy : py.Documented) {x : Json} :
    (∃ exc, uuidOf py x = .error exc ∧ UncaughtByPull exc) ↔
      x ≠ .null ∧ ∀ text, x ≠ .str text := by
  unfold UncaughtByPull
  cases x with
  | str text =>
    simp only [uuidOf, ne_eq, reduceCtorEq, not_false_eq_true, Json.str.injEq, true_and]
    constructor
    · rintro ⟨exc, h, -, -, hvalue⟩
      obtain ⟨msg, code, rfl⟩ := hpy.uuidStr h
      exact absurd rfl (hvalue msg code)
    · intro h
      exact absurd rfl (h text)
  | null | bool _ | num _ | arr _ | obj _ => simp [uuidOf]

/-- `int` escapes on an infinity. -/
theorem int_uncaught_iff (hpy : py.Documented) {x : Json} :
    (∃ exc, py.int x = .error exc ∧ UncaughtByPull exc) ↔
      ∃ neg, x = .num (.float (.inf neg)) := by
  unfold UncaughtByPull
  cases x with
  | str text =>
    simp only [PyLib.int, reduceCtorEq, exists_false, iff_false]
    rintro ⟨exc, h, -, -, hvalue⟩
    obtain ⟨msg, code, rfl⟩ := hpy.intOfStr h
    exact hvalue msg code rfl
  | num n =>
    cases n with
    | int n => simp [PyLib.int]
    | float x => cases x <;> simp [PyLib.int]
  | null | bool _ | arr _ | obj _ => simp [PyLib.int]

/-- The entries that end the pull with an exception that is not caught. -/
theorem entryOf_uncaught_iff (hpy : py.Documented) {raw : Json} :
    (∃ exc, entryOf py raw = .error exc ∧ UncaughtByPull exc) ↔ EntryEscapes py raw := by
  have hraises : (∃ exc, entryOf py raw = .error exc ∧ UncaughtByPull exc) ↔
      ∃ x, raw.item "jti" = .ok x ∧ ((∃ exc, uuidOf py x = .error exc ∧ UncaughtByPull exc) ∨
        ∃ jti, uuidOf py x = .ok jti ∧ ∃ y, raw.item "revoked_at" = .ok y ∧
          ∃ exc, py.int y = .error exc ∧ UncaughtByPull exc) := by
    unfold entryOf
    simp only [except_bind_eq_error, pure, Except.pure, reduceCtorEq, and_false, exists_false,
      or_false]
    constructor
    · rintro ⟨exc, hx | ⟨x, hx, huuid | ⟨jti, huuid, hy | ⟨y, hy, hint⟩⟩⟩, hexc⟩
      · exact absurd hexc (item_caught hx)
      · exact ⟨x, hx, .inl ⟨exc, huuid, hexc⟩⟩
      · exact absurd hexc (item_caught hy)
      · exact ⟨x, hx, .inr ⟨jti, huuid, y, hy, exc, hint, hexc⟩⟩
    · rintro ⟨x, hx, ⟨exc, huuid, hexc⟩ | ⟨jti, huuid, y, hy, exc, hint, hexc⟩⟩
      · exact ⟨exc, .inr ⟨x, hx, .inl huuid⟩, hexc⟩
      · exact ⟨exc, .inr ⟨x, hx, .inr ⟨jti, huuid, .inr ⟨y, hy, hint⟩⟩⟩, hexc⟩
  rw [hraises]
  simp only [uuidOf_uncaught_iff hpy, int_uncaught_iff hpy, item_eq_ok, uuidOf_eq_ok]
  constructor
  · rintro ⟨x, ⟨d, hdict, hx⟩, hother | ⟨jti, ⟨text, rfl, huuid⟩, y, ⟨d', hdict', hy⟩, neg, rfl⟩⟩
    · exact ⟨d, x, hdict, hx, .inl hother⟩
    · cases hdict.symm.trans hdict'
      exact ⟨d, .str text, hdict, hx, .inr ⟨text, jti, neg, rfl, huuid, hy⟩⟩
  · rintro ⟨d, x, hdict, hx, hother | ⟨text, uuid, neg, rfl, huuid, hy⟩⟩
    · exact ⟨x, ⟨d, hdict, hx⟩, .inl hother⟩
    · exact ⟨.str text, ⟨d, hdict, hx⟩, .inr ⟨uuid, ⟨text, rfl, huuid⟩, _, ⟨d, hdict, hy⟩, neg,
        rfl⟩⟩

/-- The list of the entries has their jtis, in their order. -/
theorem mapM_entryOf_ok_iff {items : List Json} {jtis : List String} :
    (∃ entries, items.mapM (entryOf py) = .ok entries ∧ entries.map Entry.jti = jtis) ↔
      List.Forall₂ (EntryAs py) items jtis := by
  simp only [except_mapM_eq_ok]
  constructor
  · rintro ⟨entries, h, rfl⟩
    induction h with
    | nil => exact .nil
    | cons he _ ih => exact .cons (entryOf_ok_iff.mp ⟨_, he, rfl⟩) ih
  · intro h
    induction h with
    | nil => exact ⟨[], .nil, rfl⟩
    | cons he _ ih =>
      obtain ⟨entries, hentries, hjtis⟩ := ih
      obtain ⟨e, he', hjti⟩ := entryOf_ok_iff.mpr he
      exact ⟨e :: entries, .cons he' hentries, by rw [List.map_cons, hjti, hjtis]⟩

/-- A loop over the entries escapes at the first one that cannot be signed. -/
theorem mapM_entryOf_uncaught_iff (hpy : py.Documented) {items : List Json} :
    (∃ exc, items.mapM (entryOf py) = .error exc ∧ UncaughtByPull exc) ↔
      ∃ before raw after, items = before ++ raw :: after ∧
        (∀ e ∈ before, ∃ jti, EntryAs py e jti) ∧ EntryEscapes py raw := by
  simp only [except_mapM_eq_error, ← entryOf_uncaught_iff hpy]
  constructor
  · rintro ⟨exc, ⟨before, raw, after, hsplit, hbefore, hraw⟩, hexc⟩
    refine ⟨before, raw, after, hsplit, ?_, exc, hraw, hexc⟩
    intro e he
    obtain ⟨entry, hentry⟩ := hbefore e he
    exact ⟨entry.jti, entryOf_ok_iff.mp ⟨entry, hentry, rfl⟩⟩
  · rintro ⟨before, raw, after, hsplit, hbefore, exc, hraw, hexc⟩
    refine ⟨exc, ⟨before, raw, after, hsplit, ?_, hraw⟩, hexc⟩
    intro e he
    obtain ⟨jti, hjti⟩ := hbefore e he
    obtain ⟨entry, hentry, -⟩ := entryOf_ok_iff.mpr hjti
    exact ⟨entry, hentry⟩

/-! ### The pull -/

/-- The body of an answer for this issuer, with its `entries`. -/
def BodyWith (aid : String) (json : Except PyErr Json) (container : Json) : Prop :=
  ∃ body d, json = .ok body ∧ body.dict? = some d ∧ d.get? "iss" = some (.str aid) ∧
    d.get? "entries" = some container

/-- An answer has a container when its status is 200 and its body has it. -/
theorem answersWith_iff {status : Nat} {json : Except PyErr Json} {container : Json} :
    AnswersWith aid (.response status json) container ↔
      status = 200 ∧ BodyWith aid json container := by
  unfold AnswersWith BodyWith
  constructor
  · rintro ⟨body, d, heq, hrest⟩
    cases heq
    exact ⟨rfl, body, d, rfl, hrest⟩
  · rintro ⟨rfl, body, d, rfl, hrest⟩
    exact ⟨body, d, rfl, hrest⟩

/-- A body is read up to a mismatch of the issuer, or up to its entries. -/
theorem readBody_eq {json : Except PyErr Json} :
    readBody py aid json = json >>= fun body => body.item "iss" >>= fun iss =>
      if iss ≠ .str aid then
        .ok (.error (.refused "issuer_mismatch"
          ("CP answered for " ++ py.reprOf iss ++ ", not " ++ py.reprOf (.str aid))))
      else body.item "entries" >>= fun container => container.iter >>= fun items =>
        items.mapM (entryOf py) >>= fun entries => .ok (.ok entries) := rfl

/-- The entries of a body are those of its container, one by one. -/
theorem readBody_eq_ok (py : PyLib) (aid : String) (json : Except PyErr Json)
    (entries : List Entry) :
    readBody py aid json = .ok (.ok entries) ↔ ∃ container items, BodyWith aid json container ∧
      container.iter = .ok items ∧ items.mapM (entryOf py) = .ok entries := by
  unfold BodyWith
  rw [readBody_eq]
  simp only [except_bind_eq_ok, item_eq_ok]
  constructor
  · rintro ⟨body, rfl, iss, ⟨d, hdict, hiss⟩, hrest⟩
    split at hrest
    · cases hrest
    · rename_i hmatch
      rw [not_not] at hmatch
      subst hmatch
      simp only [except_bind_eq_ok, item_eq_ok, Except.ok.injEq] at hrest
      obtain ⟨container, ⟨d', hdict', hget⟩, items, hitems, entries', hentries, rfl⟩ := hrest
      cases hdict.symm.trans hdict'
      exact ⟨container, items, ⟨body, d, rfl, hdict, hiss, hget⟩, hitems, hentries⟩
  · rintro ⟨container, items, ⟨body, d, rfl, hdict, hiss, hget⟩, hitems, hentries⟩
    refine ⟨body, rfl, .str aid, ⟨d, hdict, hiss⟩, ?_⟩
    simp only [ne_eq, not_true_eq_false, if_false, except_bind_eq_ok, item_eq_ok]
    exact ⟨container, ⟨d, hdict, hget⟩, items, hitems, entries, hentries, rfl⟩

/-- A loop raises nothing that `_pull` does not catch. -/
theorem iter_caught {container : Json} {exc : PyErr} (h : container.iter = .error exc) :
    ¬UncaughtByPull exc := by
  rintro ⟨-, htype, -⟩
  cases container <;> cases h
  all_goals exact htype _ rfl

/-- The keys of an object and the characters of a text are no entries. -/
theorem entryEscapes_array {container raw : Json} {items before after : List Json}
    (hiter : container.iter = .ok items) (hsplit : items = before ++ raw :: after)
    (hraw : EntryEscapes py raw) : container = .arr items := by
  obtain ⟨d, jti, hdict, -⟩ := hraw
  have hmem : raw ∈ items := by
    rw [hsplit]
    simp
  cases container with
  | arr items' =>
    cases hiter
    rfl
  | obj members =>
    cases hiter
    obtain ⟨key, -, rfl⟩ := List.mem_map.mp hmem
    cases hdict
  | str text =>
    cases hiter
    obtain ⟨c, -, rfl⟩ := List.mem_map.mp hmem
    cases hdict
  | null | bool _ | num _ => cases hiter

/-- An exception escapes from the body itself, or from the first entry that is not read. -/
theorem readBody_uncaught_iff (hpy : py.Documented) (aid : String) (json : Except PyErr Json) :
    (∃ exc, readBody py aid json = .error exc ∧ UncaughtByPull exc) ↔
      (∃ exc, json = .error exc ∧ UncaughtByPull exc) ∨
      ∃ before raw after, BodyWith aid json (.arr (before ++ raw :: after)) ∧
        (∀ e ∈ before, ∃ jti, EntryAs py e jti) ∧ EntryEscapes py raw := by
  unfold BodyWith
  rw [readBody_eq]
  simp only [except_bind_eq_error]
  constructor
  · rintro ⟨exc, hjson | ⟨body, rfl, hiss | ⟨iss, hiss, hrest⟩⟩, hexc⟩
    · exact .inl ⟨exc, hjson, hexc⟩
    · exact absurd hexc (item_caught hiss)
    · split at hrest
      · cases hrest
      · rename_i hmatch
        rw [not_not] at hmatch
        subst hmatch
        simp only [except_bind_eq_error, reduceCtorEq, and_false, exists_false, or_false] at hrest
        obtain ⟨d, hdict, hget⟩ := item_eq_ok.mp hiss
        rcases hrest with hentries | ⟨container, hentries, hiter | ⟨items, hiter, hmap⟩⟩
        · exact absurd hexc (item_caught hentries)
        · exact absurd hexc (iter_caught hiter)
        · obtain ⟨d', hdict', hget'⟩ := item_eq_ok.mp hentries
          cases hdict.symm.trans hdict'
          obtain ⟨before, raw, after, hsplit, hbefore, hescapes⟩ :=
            (mapM_entryOf_uncaught_iff hpy).mp ⟨exc, hmap, hexc⟩
          have harr := entryEscapes_array hiter hsplit hescapes
          subst harr hsplit
          exact .inr ⟨before, raw, after, ⟨body, d, rfl, hdict, hget, hget'⟩, hbefore, hescapes⟩
  · rintro (⟨exc, rfl, hexc⟩ | ⟨before, raw, after, ⟨body, d, rfl, hdict, hiss, hget⟩, hbefore,
      hraw⟩)
    · exact ⟨exc, .inl rfl, hexc⟩
    · obtain ⟨exc, hmap, hexc⟩ :=
        (mapM_entryOf_uncaught_iff hpy).mpr ⟨before, raw, after, rfl, hbefore, hraw⟩
      refine ⟨exc, .inr ⟨body, rfl, .inr ⟨.str aid, item_eq_ok.mpr ⟨d, hdict, hiss⟩, ?_⟩⟩, hexc⟩
      simp only [ne_eq, not_true_eq_false, if_false, except_bind_eq_error]
      exact .inr ⟨_, item_eq_ok.mpr ⟨d, hdict, hget⟩, .inr ⟨_, rfl, .inl hmap⟩⟩

/-- A pull returns the entries of a body for this issuer, whatever their loop goes through. -/
theorem pull_eq_ok {entries : List Entry} :
    pull py aid answer = .ok entries ↔ ∃ container items, AnswersWith aid answer container ∧
      container.iter = .ok items ∧ items.mapM (entryOf py) = .ok entries := by
  cases answer with
  | failed detail => simp [pull, AnswersWith]
  | response status json =>
    simp only [answersWith_iff]
    by_cases hstatus : status = 200
    · have hbody := readBody_eq_ok py aid json entries
      simp only [hstatus, true_and, ← hbody, pull, ne_eq, not_true_eq_false, if_false]
      cases hread : readBody py aid json with
      | ok result => simp
      | error exc => cases exc <;> simp
    · simp only [pull, ne_eq, hstatus, not_false_eq_true, if_true, false_and, exists_false,
        iff_false]
      cases errorCode json <;> simp

/-- What the reading of a body refuses by itself is a mismatch of the issuer. -/
theorem readBody_refused {json : Except PyErr Json} {exc : PullExc}
    (h : readBody py aid json = .ok (.error exc)) :
    ∃ cause detail, exc = .refused cause detail := by
  rw [readBody_eq] at h
  simp only [except_bind_eq_ok] at h
  obtain ⟨body, -, iss, -, hrest⟩ := h
  split at hrest
  · cases hrest
    exact ⟨_, _, rfl⟩
  · simp only [except_bind_eq_ok] at hrest
    obtain ⟨_, -, _, -, _, -, hpure⟩ := hrest
    cases hpure

/-- A pull escapes on these answers only. -/
theorem pull_raised_iff (hpy : py.Documented) :
    (∃ exc, pull py aid answer = .error (.raised exc)) ↔ PullEscapes py aid answer := by
  unfold PullEscapes
  cases answer with
  | failed detail => simp [pull, AnswersWith]
  | response status json =>
    by_cases hstatus : status = 200
    · have hbody := readBody_uncaught_iff hpy aid json
      subst hstatus
      simp only [answersWith_iff, true_and, Answer.response.injEq]
      have hcode : ¬∃ status exc, (200 = status ∧ json = .error exc) ∧ status ≠ 200 ∧
          (∀ msg code, exc ≠ .valueError msg code) ∧ ∀ msg, exc ≠ .attributeError msg := by
        rintro ⟨_, exc, ⟨rfl, -⟩, hne, -⟩
        exact hne rfl
      rw [or_iff_right hcode, ← hbody]
      unfold UncaughtByPull
      simp only [pull, ne_eq, not_true_eq_false, if_false]
      cases hread : readBody py aid json with
      | ok result =>
        cases result with
        | ok entries => simp
        | error exc =>
          obtain ⟨cause, detail, rfl⟩ := readBody_refused hread
          simp
      | error exc => cases exc <;> simp
    · simp only [answersWith_iff, hstatus, false_and, exists_false, or_false, Answer.response.injEq]
      simp only [pull, ne_eq, hstatus, not_false_eq_true, if_true]
      cases json with
      | ok body =>
        obtain ⟨code, hcode⟩ : ∃ code, errorCode (.ok body) = .ok code := by
          simp only [errorCode]
          split <;> exact ⟨_, rfl⟩
        simp [hcode]
      | error exc => cases exc <;> simp_all [errorCode]

/-- A loop over texts reads no entry, so it returns only if it ends at once. -/
theorem eq_nil_of_texts {items : List Json} {entries : List Entry}
    (htexts : ∀ x ∈ items, ∃ text, x = .str text)
    (hmap : items.mapM (entryOf py) = .ok entries) : items = [] := by
  cases items with
  | nil => rfl
  | cons x rest =>
    obtain ⟨text, rfl⟩ := htexts x List.mem_cons_self
    obtain ⟨e, _, he, -⟩ := List.forall₂_cons_left_iff.mp (except_mapM_eq_ok.mp hmap)
    obtain ⟨d, _, _, _, hdict, -⟩ := entryOf_ok_iff.mp ⟨e, he, rfl⟩
    cases hdict

/-- A pull returns the entries of a well-formed answer, or no entries for an empty object or
text. -/
theorem pull_jtis_iff (py : PyLib) (aid : String) (answer : Answer) (jtis : List String) :
    (∃ entries, pull py aid answer = .ok entries ∧ entries.map Entry.jti = jtis) ↔
      WellFormed py aid answer jtis ∨ (EmptyNonArray aid answer ∧ jtis = []) := by
  unfold WellFormed EmptyNonArray
  simp only [pull_eq_ok, ← mapM_entryOf_ok_iff]
  constructor
  · rintro ⟨entries, ⟨container, items, hanswer, hiter, hmap⟩, hjtis⟩
    cases container with
    | arr items' =>
      cases hiter
      exact .inl ⟨_, hanswer, entries, hmap, hjtis⟩
    | obj members =>
      cases hiter
      have hnil := eq_nil_of_texts (by simp) hmap
      rw [hnil] at hmap
      cases hmap
      cases members with
      | nil => exact .inr ⟨.inl hanswer, hjtis.symm⟩
      | cons e rest =>
        have hkey := Dict.mem_keys_ofList (l := e :: rest) List.mem_cons_self
        rw [List.map_eq_nil_iff.mp hnil] at hkey
        cases hkey
    | str text =>
      cases hiter
      have hnil := eq_nil_of_texts (by simp) hmap
      rw [hnil] at hmap
      cases hmap
      have hempty : text = "" := by simpa using hnil
      subst hempty
      exact .inr ⟨.inr hanswer, hjtis.symm⟩
    | null | bool _ | num _ => cases hiter
  · rintro (⟨items, hanswer, entries, hmap, hjtis⟩ | ⟨hanswer | hanswer, rfl⟩)
    · exact ⟨entries, ⟨_, items, hanswer, rfl, hmap⟩, hjtis⟩
    · exact ⟨[], ⟨_, [], hanswer, rfl, rfl⟩, rfl⟩
    · exact ⟨[], ⟨_, [], hanswer, rfl, rfl⟩, rfl⟩

/-! ### The refresh -/

/-- The list in force is verified and applied. -/
theorem applyList_of_inForce (hcp : l.cpBaseUrl.isSome = true)
    (hsdk : OwnListsVerify sdk py now salt)
    {list : SignedList} (hlist : l.inForce aid now = some list) (hsigned : Signed sdk py list) :
    ∃ jtis publishedAt expiresAt,
      readEnvelope py list.envelopeJson = .ok (jtis, publishedAt, expiresAt) ∧
      applyList sdk py l r aid now salt =
        (l, r.applySnapshot jtis publishedAt expiresAt, some list) := by
  obtain ⟨signer, ttlSecs, entries, salt', hsign⟩ := hsigned
  have hverify := hsdk.verifies hsign (lt_expiresAt_of_inForce hlist)
  obtain ⟨publishedAt, expiresAt, hread⟩ := hsdk.reads hsign
  refine ⟨_, _, _, hread, ?_⟩
  unfold applyList
  rw [serveable_of_cp hcp, hlist]
  simp only [hverify, hread]

/-- Without a list in force nothing is applied. -/
theorem applyList_of_none (hcp : l.cpBaseUrl.isSome = true) (hnone : l.inForce aid now = none) :
    applyList sdk py l r aid now salt = (l, r, none) := by
  unfold applyList
  rw [serveable_of_cp hcp, hnone]

/-- What `apply_snapshot` puts in force is enforced. -/
theorem enforces_applySnapshot {list : SignedList} {jtis : List String}
    {publishedAt expiresAt : Int}
    (hread : readEnvelope py list.envelopeJson = .ok (jtis, publishedAt, expiresAt)) :
    Enforces py (r.applySnapshot jtis publishedAt expiresAt) list :=
  ⟨jtis, publishedAt, expiresAt, _, hread, rfl, rfl⟩

/-- A refresh that changes nothing settles if and only if the current list is in force, expired
or absent. -/
theorem allOrNothing_unchanged_iff :
    AllOrNothing py aid answer l l r r now ↔ ¬Unenforced py l r now := by
  constructor
  · rintro (⟨jtis, list, publishedAt, expiresAt, snap, -, hcur, -, hread, hsnap, hentries⟩ |
      ⟨-, ⟨list, hcur, henforces⟩ | ⟨hexpired, -⟩⟩) ⟨list', hcur', hlive, hnot⟩
    · cases hcur.symm.trans hcur'
      exact hnot ⟨jtis, publishedAt, expiresAt, snap, hread, hsnap, hentries⟩
    · cases hcur.symm.trans hcur'
      exact hnot henforces
    · rw [hexpired list' hcur'] at hlive
      cases hlive
  · intro hnot
    refine .inr ⟨rfl, ?_⟩
    by_cases henforced : ∃ list, l.current = some list ∧ Enforces py r list
    · exact .inl henforced
    · refine .inr ⟨?_, rfl⟩
      intro list hcur
      by_contra hlive
      rw [Bool.not_eq_true] at hlive
      exact hnot ⟨list, hcur, hlive, fun h => henforced ⟨list, hcur, h⟩⟩

/-- A refresh that is refused settles if and only if the current list is signed by the agent,
in force, expired or absent. -/
theorem allOrNothing_applied_iff (hcp : l.cpBaseUrl.isSome = true)
    (hsdk : OwnLists sdk py now signSalt salt)
    (hsigned : ∀ list, l.current = some list → Signed sdk py list) :
    AllOrNothing py aid answer l (applyList sdk py l r aid now salt).1 r
        (applyList sdk py l r aid now salt).2.1 now ↔
      (Unenforced py l r now → ∃ list, l.current = some list ∧ list.signerAid = aid) := by
  cases hforce : l.inForce aid now with
  | some list =>
    obtain ⟨hcur, hsigner, -⟩ := inForce_eq_some.mp hforce
    obtain ⟨jtis, publishedAt, expiresAt, hread, happly⟩ :=
      applyList_of_inForce (r := r) hcp hsdk.toOwnListsVerify hforce (hsigned list hcur)
    rw [happly]
    exact ⟨fun _ _ => ⟨list, hcur, hsigner⟩,
      fun _ => .inr ⟨rfl, .inl ⟨list, hcur, enforces_applySnapshot hread⟩⟩⟩
  | none =>
    rw [applyList_of_none hcp hforce, allOrNothing_unchanged_iff]
    constructor
    · exact fun hnot h => absurd h hnot
    · rintro himp ⟨list, hcur, hlive, hnot⟩
      -- A list of the agent that is not expired is in force.
      obtain ⟨list', hcur', hsigner⟩ := himp ⟨list, hcur, hlive, hnot⟩
      cases hcur.symm.trans hcur'
      rw [inForce_eq_some.mpr ⟨hcur, hsigner, hlive⟩] at hforce
      cases hforce

/-- A well-formed answer has an array of entries. -/
theorem WellFormed.not_emptyNonArray {jtis : List String} (h : WellFormed py aid answer jtis) :
    ¬EmptyNonArray aid answer := by
  obtain ⟨items, ⟨body, d, rfl, hdict, -, hget⟩, -⟩ := h
  rintro (⟨body', d', hanswer, hdict', -, hget'⟩ | ⟨body', d', hanswer, hdict', -, hget'⟩)
  · cases hanswer
    cases hdict.symm.trans hdict'
    cases hget.symm.trans hget'
  · cases hanswer
    cases hdict.symm.trans hdict'
    cases hget.symm.trans hget'

/-- A refresh that signs a new list settles, unless the answer had an empty object or text in
place of the array, and the new list is not the one it replaces. -/
theorem allOrNothing_published_iff (hcp : l.cpBaseUrl.isSome = true)
    (hsdk : OwnLists sdk py now signSalt salt) (httl : 0 < l.ttlSecs) {entries : List Entry}
    {list : SignedList} (hpull : pull py aid answer = .ok entries)
    (hsign : sign sdk py aid l.ttlSecs entries signSalt = .ok list) :
    AllOrNothing py aid answer l
        (applyList sdk py { l with current := some list } r aid now salt).1 r
        (applyList sdk py { l with current := some list } r aid now salt).2.1 now ↔
      (EmptyNonArray aid answer → l.current = some list) := by
  have hlive : list.isExpired now = false := by
    simpa [SignedList.isExpired] using hsdk.outlives httl hsign
  have hforce : ({ l with current := some list } : IssuerRevocationList).inForce aid now =
      some list := inForce_eq_some.mpr ⟨rfl, (signedFor_of_sign hsign).signer, hlive⟩
  obtain ⟨jtis, publishedAt, expiresAt, hread, happly⟩ :=
    applyList_of_inForce (r := r) (l := { l with current := some list }) hcp hsdk.toOwnListsVerify
      hforce ⟨_, _, _, _, hsign⟩
  obtain ⟨publishedAt', expiresAt', hread'⟩ := hsdk.reads hsign
  cases hread.symm.trans hread'
  rw [happly]
  rcases (pull_jtis_iff py aid answer _).mp ⟨entries, hpull, rfl⟩ with hformed | ⟨hempty, -⟩
  · refine ⟨fun _ h => absurd h hformed.not_emptyNonArray, fun _ => .inl ?_⟩
    refine ⟨_, list, publishedAt, expiresAt, _, hformed, rfl, ?_, hread, rfl, rfl⟩
    rw [(signedFor_of_sign hsign).count, List.length_map]
  · constructor
    · rintro (⟨jtis, _, _, _, _, hformed, -⟩ | ⟨hcur, -⟩) _
      · exact absurd hempty hformed.not_emptyNonArray
      · exact hcur.symm
    · intro himp
      have hcur := himp hempty
      exact .inr ⟨hcur.symm, .inl ⟨list, hcur, enforces_applySnapshot hread⟩⟩

/-- A refresh that raises leaves everything as it was. -/
theorem refreshRevocations_of_raised {quiet : Bool} {l' : IssuerRevocationList}
    (h : l.finishRefresh sdk py aid aid quiet answer signSalt = (l', .raised)) :
    refreshRevocations sdk py l r aid quiet answer now signSalt salt = (l', r) := by
  unfold refreshRevocations
  rw [h]

/-- A refresh that returns applies the list in force. -/
theorem refreshRevocations_of_returned {quiet emits : Bool} {l' : IssuerRevocationList}
    {pulled : Option (List Entry)}
    (h : l.finishRefresh sdk py aid aid quiet answer signSalt = (l', .returned emits pulled)) :
    refreshRevocations sdk py l r aid quiet answer now signSalt salt =
      ((applyList sdk py l' r aid now salt).1, (applyList sdk py l' r aid now salt).2.1) := by
  unfold refreshRevocations
  rw [h]

/-- An empty object or text in place of the entries is read as no entries. -/
theorem pull_of_empty (h : EmptyNonArray aid answer) : pull py aid answer = .ok [] := by
  obtain ⟨entries, hpull, hnil⟩ := (pull_jtis_iff py aid answer []).mpr (.inr ⟨h, rfl⟩)
  rwa [List.map_eq_nil_iff.mp hnil] at hpull

/-- An answer whose entries are read is well formed, or has an empty object or text in their
place. -/
theorem answered_of_pull {entries : List Entry} (hpull : pull py aid answer = .ok entries) :
    (∃ jtis, WellFormed py aid answer jtis) ∨ EmptyNonArray aid answer := by
  rcases (pull_jtis_iff py aid answer _).mp ⟨entries, hpull, rfl⟩ with hformed | ⟨hempty, -⟩
  · exact .inl ⟨_, hformed⟩
  · exact .inr hempty

/-- An answer that is refused is neither. -/
theorem not_answered_of_error {exc : PullExc} (hpull : pull py aid answer = .error exc) :
    ¬EmptyNonArray aid answer ∧ ¬∃ jtis, WellFormed py aid answer jtis := by
  constructor
  · intro hempty
    rw [pull_of_empty hempty] at hpull
    cases hpull
  · rintro ⟨jtis, hformed⟩
    obtain ⟨entries, hpull', -⟩ := (pull_jtis_iff py aid answer jtis).mpr (.inl hformed)
    cases hpull'.symm.trans hpull

/-- The SDK refuses to sign what the pull has read. -/
theorem signingRefused_iff :
    SigningRefused sdk py l aid answer signSalt ↔
      ∃ entries exc, pull py aid answer = .ok entries ∧
        sign sdk py aid l.ttlSecs entries signSalt = .error exc := by
  simp only [pull_eq_ok]
  constructor
  · rintro ⟨container, items, entries, exc, hanswer, hiter, hmap, hsign⟩
    exact ⟨entries, exc, ⟨container, items, hanswer, hiter, hmap⟩, hsign⟩
  · rintro ⟨entries, exc, ⟨container, items, hanswer, hiter, hmap⟩, hsign⟩
    exact ⟨container, items, entries, exc, hanswer, hiter, hmap, hsign⟩

/-- A refresh replaces the list or keeps it, if and only if `PullSettles`. -/
theorem refreshRevocations_settles_iff (hpy : py.Documented)
    (hsdk : OwnLists sdk py now signSalt salt) (hcp : l.cpBaseUrl.isSome = true)
    (httl : 0 < l.ttlSecs) (hsigned : ∀ list, l.current = some list → Signed sdk py list)
    (quiet : Bool) :
    AllOrNothing py aid answer l
        (refreshRevocations sdk py l r aid quiet answer now signSalt salt).1 r
        (refreshRevocations sdk py l r aid quiet answer now signSalt salt).2 now ↔
      PullSettles sdk py l r aid answer now signSalt := by
  unfold PullSettles
  rw [← pull_raised_iff hpy, signingRefused_iff]
  cases hpull : pull py aid answer with
  | error exc =>
    obtain ⟨hnotEmpty, hnotFormed⟩ := not_answered_of_error hpull
    cases exc with
    | raised exc =>
      have hfinish : l.finishRefresh sdk py aid aid quiet answer signSalt = (l, .raised) := by
        simp [IssuerRevocationList.finishRefresh, hpull]
      rw [refreshRevocations_of_raised hfinish, allOrNothing_unchanged_iff]
      simp [hnotEmpty]
    | refused cause detail =>
      have hfinish : l.finishRefresh sdk py aid aid quiet answer signSalt =
          (l, .returned (!quiet) none) := by
        simp [IssuerRevocationList.finishRefresh, hpull]
      rw [refreshRevocations_of_returned hfinish, allOrNothing_applied_iff hcp hsdk hsigned]
      simp [hnotEmpty, hnotFormed]
  | ok entries =>
    have hnil : EmptyNonArray aid answer → entries = [] := by
      intro hempty
      cases hpull.symm.trans (pull_of_empty hempty)
      rfl
    cases hsign : sign sdk py aid l.ttlSecs entries signSalt with
    | error exc =>
      have hfinish : l.finishRefresh sdk py aid aid quiet answer signSalt = (l, .raised) := by
        simp [IssuerRevocationList.finishRefresh, hpull, hsign]
      rw [refreshRevocations_of_raised hfinish, allOrNothing_unchanged_iff]
      constructor
      · intro hnot
        refine ⟨fun h => absurd h hnot, ?_⟩
        intro hempty list hlist
        rw [hnil hempty, hlist] at hsign
        cases hsign
      · rintro ⟨himp, -⟩ h
        exact (himp h).2.1 ⟨entries, exc, rfl, hsign⟩
    | ok list =>
      have hfinish : l.finishRefresh sdk py aid aid quiet answer signSalt =
          ({ l with current := some list }, .returned
            (!quiet || decide (l.current.map SignedList.entryCount ≠ some entries.length))
            (some entries)) := by
        simp [IssuerRevocationList.finishRefresh, hpull, hsign]
      rw [refreshRevocations_of_returned hfinish,
        allOrNothing_published_iff hcp hsdk httl hpull hsign]
      constructor
      · intro himp
        refine ⟨fun _ => ⟨by simp, ?_, .inr (answered_of_pull hpull)⟩, ?_⟩
        · rintro ⟨entries', exc, hpull', hsign'⟩
          cases hpull'
          cases hsign.symm.trans hsign'
        · intro hempty list' hlist'
          rw [hnil hempty] at hsign
          cases hsign.symm.trans hlist'
          exact himp hempty
      · rintro ⟨-, himp⟩ hempty
        rw [hnil hempty] at hsign
        exact himp hempty list hsign

/-! ### Runs -/

/-- The current list of an agent was signed by the SDK. -/
def CurrentSigned (sdk : Sdk) (py : PyLib) (c : AgentCore) : Prop :=
  ∀ list, c.issued.current = some list → Signed sdk py list

/-- Every effect keeps the current list signed. -/
theorem currentSigned_effect {ok : AgentCore → Publication → Prop} {c c' : AgentCore}
    (hc : CurrentSigned sdk py c) (he : Effect sdk py ok c c') : CurrentSigned sdk py c' := by
  intro list hlist
  cases he with
  | publish p salt pulled signed meets =>
    cases hlist
    exact ⟨c.aid, c.issued.ttlSecs, p.entries, salt, signed⟩
  | rotate | apply | challenge => exact hc list hlist

/-- The current list is signed in every run. -/
theorem currentSigned_run {s₀ s : AgentSystem} (hstart : AgentStart s₀)
    (hcp : s₀.server.cpConfigured = true) (hrun : Reach (agentStep sdk py) anyStep s₀ s) :
    CurrentSigned sdk py (coreOfAgent s) ∧ AgentInv s := by
  obtain ⟨heff, hinv⟩ := run_effects (fun s l _ => resumeOk_trivial s l) hrun
    (agentInv_start hstart hcp)
  refine ⟨heff.invariant (P := CurrentSigned sdk py) (fun _ _ => currentSigned_effect) ?_, hinv⟩
  intro list hlist
  have hnone : (coreOfAgent s₀).issued.current = none := hstart.current
  rw [hnone] at hlist
  cases hlist

/-- The end of a refresh: what it applies. -/
theorem afterRefresh_refresh (sdk : Sdk) (py : PyLib) {s : AgentSystem} {i : Nat}
    (hi : i < s.tasks.length) (quiet : Bool) (pc : TaskPc) (pulled : Option Nat) (salt : Nat) :
    (s.afterRefresh sdk py i ⟨false, quiet, pc⟩ pulled salt).tasks[i]? =
        some ⟨false, quiet, .done⟩ ∧
      (s.afterRefresh sdk py i ⟨false, quiet, pc⟩ pulled salt).server.issuedRevocations =
        (applyList sdk py s.server.issuedRevocations s.server.revocation s.server.aid s.clock
          salt).1 ∧
      (s.afterRefresh sdk py i ⟨false, quiet, pc⟩ pulled salt).server.revocation =
        (applyList sdk py s.server.issuedRevocations s.server.revocation s.server.aid s.clock
          salt).2.1 := by
  simp [AgentSystem.afterRefresh, AgentSystem.setTask, hi]

/-- The coroutine of a refresh that nothing comes between ends with `refreshRevocations`. -/
theorem refresh_reaches {s : AgentSystem} {i : Nat} {quiet : Bool}
    (htask : s.tasks[i]? = some ⟨false, quiet, .pulling s.server.aid⟩) (answer : Answer)
    (version salt : Nat) :
    ∃ s', Reach (agentStep sdk py) anyStep s s' ∧ s'.tasks[i]? = some ⟨false, quiet, .done⟩ ∧
      (s'.server.issuedRevocations, s'.server.revocation) =
        refreshRevocations sdk py s.server.issuedRevocations s.server.revocation s.server.aid
          quiet answer s.clock salt salt := by
  obtain ⟨hi, -⟩ := List.getElem?_eq_some_iff.mp htask
  have hresume : agentStep sdk py s (.resume i answer version salt) =
      some (s.resume sdk py i ⟨false, quiet, .pulling s.server.aid⟩ s.server.aid answer version
        salt) := by
    simp [agentStep, htask]
  have hstep : Reach (agentStep sdk py) anyStep s (s.resume sdk py i
      ⟨false, quiet, .pulling s.server.aid⟩ s.server.aid answer version salt) :=
    (Reach.refl s).snoc trivial hresume
  cases hfinish : s.server.issuedRevocations.finishRefresh sdk py s.server.aid s.server.aid quiet
      answer salt with
  | mk issued out =>
    cases out with
    | raised =>
      have hsame : issued = s.server.issuedRevocations := by
        rcases finishRefresh_cases sdk py s.server.issuedRevocations s.server.aid s.server.aid
          quiet answer salt with ⟨out, heq, -⟩ | ⟨_, _, _, -, -, heq⟩
        · rw [hfinish] at heq
          exact (Prod.mk.inj heq).1
        · rw [hfinish] at heq
          cases heq
      refine ⟨_, hstep, ?_, ?_⟩
      · simp [AgentSystem.resume, hfinish, AgentSystem.setTask, hi]
      · rw [refreshRevocations_of_raised hfinish, hsame]
        simp [AgentSystem.resume, hfinish, AgentSystem.setTask]
    | returned emits pulled =>
      rw [refreshRevocations_of_returned hfinish]
      cases emits with
      | false =>
        -- Nothing is awaited, and the list is applied in the same step.
        refine ⟨_, hstep, ?_⟩
        simp only [AgentSystem.resume, hfinish, Bool.false_eq_true, if_false]
        obtain ⟨htask', hissued, hrevocation⟩ := afterRefresh_refresh sdk py
          (s := { s with
            server := { s.server with issuedRevocations := issued }
            history := AgentSystem.publishedBy s.server.aid answer version issued pulled ++
              s.history }) hi quiet (.pulling s.server.aid) (pulled.map fun _ => version) salt
        exact ⟨htask', Prod.ext hissued hrevocation⟩
      | true =>
        -- The telemetry event is awaited, and its return applies the list.
        have hi' : i < (s.resume sdk py i ⟨false, quiet, .pulling s.server.aid⟩ s.server.aid
            answer version salt).tasks.length := by
          simpa [AgentSystem.resume, hfinish, AgentSystem.setTask] using hi
        have hemitted : agentStep sdk py (s.resume sdk py i
            ⟨false, quiet, .pulling s.server.aid⟩ s.server.aid answer version salt)
            (.emitted i salt) =
              some ((s.resume sdk py i ⟨false, quiet, .pulling s.server.aid⟩ s.server.aid answer
                version salt).afterRefresh sdk py i
                  ⟨false, quiet, .emitting (pulled.map fun _ => version)⟩
                  (pulled.map fun _ => version) salt) := by
          simp [agentStep, AgentSystem.resume, hfinish, AgentSystem.setTask, hi]
        refine ⟨_, hstep.snoc trivial hemitted, ?_⟩
        obtain ⟨htask', hissued, hrevocation⟩ := afterRefresh_refresh sdk py hi'
          quiet (.emitting (pulled.map fun _ => version)) (pulled.map fun _ => version) salt
        refine ⟨htask', ?_⟩
        rw [hissued, hrevocation]
        simp [AgentSystem.resume, hfinish, AgentSystem.setTask]

/-- For every reachable state of an agent with a control plane, and for every answer, a refresh
that nothing comes between replaces the list by the entries of a well-formed answer, or keeps
the list and what is in force, if and only if `PullSettles`. -/
theorem pull_settles_iff (sdk : Sdk) (py : PyLib) (hpy : py.Documented) {s₀ s : AgentSystem}
    (hstart : AgentStart s₀) (hcp : s₀.server.cpConfigured = true)
    (hrun : Reach (agentStep sdk py) anyStep s₀ s) (quiet : Bool) (answer : Answer) {now : ℚ}
    {signSalt salt : Nat} (httl : 0 < s.server.issuedRevocations.ttlSecs)
    (hsdk : OwnLists sdk py now signSalt salt) :
    AllOrNothing py s.server.aid answer s.server.issuedRevocations
        (refreshRevocations sdk py s.server.issuedRevocations s.server.revocation s.server.aid
          quiet answer now signSalt salt).1 s.server.revocation
        (refreshRevocations sdk py s.server.issuedRevocations s.server.revocation s.server.aid
          quiet answer now signSalt salt).2 now ↔
      PullSettles sdk py s.server.issuedRevocations s.server.revocation s.server.aid answer now
        signSalt := by
  obtain ⟨hsigned, hinv⟩ := currentSigned_run hstart hcp hrun
  exact refreshRevocations_settles_iff hpy hsdk hinv.cp httl hsigned quiet

/-! ### Concrete answers -/

/-- The library of the concrete runs raises what is documented. -/
theorem agentLib_documented : agentLib.Documented where
  uuidStr := by
    intro s exc h
    cases h
  intOfStr := by
    intro s exc h
    cases h
    exact ⟨_, _, rfl⟩
  jsonLoads := by
    intro s exc h
    simp only [agentLib, PyLib.reading] at h
    split at h <;> cases h
    exact .inl ⟨_, _, rfl⟩
  jsonLoadsBytes := by
    intro raw exc h
    cases h
    exact .inl ⟨_, _, rfl⟩
  urlsafeB64decode := by
    intro s exc h
    cases h
    exact ⟨_, _, rfl⟩
  utf8Decode := by
    intro raw exc h
    cases h
    exact ⟨_, _, rfl⟩

/-- What the SDK of the concrete runs signs is one of its lists. -/
theorem mem_agentLists {aid : String} {ttlSecs : Int} {entries : List Entry} {salt : Nat}
    {list : SignedList} (h : sign agentSdk agentLib aid ttlSecs entries salt = .ok list) :
    ((aid, entries.map Entry.jti), list.envelopeJson) ∈ agentLists := by
  have hsign := (signedFor_of_sign h).envelope
  simp only [agentSdk, Sdk.signing] at hsign
  split at hsign
  · rename_i text hlookup
    cases hsign
    obtain ⟨before, after, hlists, -⟩ := List.lookup_eq_some_iff.mp hlookup
    rw [hlists]
    simp
  · cases hsign

/-- The lists of the concrete runs end at 3600. -/
theorem expiresAt_of_agentSdk {aid : String} {ttlSecs : Int} {entries : List Entry} {salt : Nat}
    {list : SignedList} (h : sign agentSdk agentLib aid ttlSecs entries salt = .ok list) :
    list.expiresAt = 3600 := by
  have hall : ∀ e ∈ agentLists, ((agentLib.jsonLoads e.2 >>= Json.item "revocation_list") >>=
      Json.item "expires_at") >>= agentLib.int = .ok 3600 := by
    decide +kernel
  exact Except.ok.inj ((signedFor_of_sign h).expires.symm.trans (hall _ (mem_agentLists h)))

/-- The lists of the SDK of the concrete runs can be looked at. -/
theorem agentSdk_ownListsVerify (now : ℚ) (salt : Nat) :
    OwnListsVerify agentSdk agentLib now salt := by
  have hread : ∀ e ∈ agentLists, readEnvelope agentLib e.2 = .ok (e.1.2, 0, 3600) := by
    decide +kernel
  constructor
  · intro aid ttlSecs entries salt list h
    exact ⟨0, 3600, hread _ (mem_agentLists h)⟩
  · intro aid ttlSecs entries salt list h _
    have hany : (agentLists.any fun e => e.1.1 = list.signerAid ∧ e.2 = list.envelopeJson) =
        true := by
      rw [List.any_eq_true]
      exact ⟨_, mem_agentLists h, by simp [(signedFor_of_sign h).signer]⟩
    simp only [agentSdk, Sdk.signing, hany, if_true]

/-- Before the end of its lists, the SDK of the concrete runs keeps its promises. -/
theorem agentSdk_ownLists_before {now : ℚ} (hnow : now < 3600) (signSalt salt : Nat) :
    OwnLists agentSdk agentLib now signSalt salt where
  toOwnListsVerify := agentSdk_ownListsVerify now salt
  outlives := by
    intro aid ttlSecs entries list _ h
    rw [expiresAt_of_agentSdk h]
    exact_mod_cast hnow

/-- The SDK of the agent verifies its own lists. -/
theorem agentSdk_ownLists : OwnLists agentSdk agentLib 30 0 0 :=
  agentSdk_ownLists_before (by decide +kernel) 0 0

/-- The agent `a` asks for the first time, and the answer replaces its list. -/
theorem pull_settles_iff_first :
    AllOrNothing agentLib "a" (entriesAnswer "a" [jtiA]) newAgent.server.issuedRevocations
      (refreshRevocations agentSdk agentLib newAgent.server.issuedRevocations
        newAgent.server.revocation "a" true (entriesAnswer "a" [jtiA]) 30 0 0).1
      newAgent.server.revocation
      (refreshRevocations agentSdk agentLib newAgent.server.issuedRevocations
        newAgent.server.revocation "a" true (entriesAnswer "a" [jtiA]) 30 0 0).2 30 := by
  refine (pull_settles_iff agentSdk agentLib agentLib_documented newAgent_start rfl (.refl newAgent)
    true (entriesAnswer "a" [jtiA]) (by decide) agentSdk_ownLists).mpr ⟨?_, ?_⟩
  · rintro ⟨list, hcur, -⟩
    cases hcur
  · rintro (⟨body, d, hanswer, hdict, -, hget⟩ | ⟨body, d, hanswer, hdict, -, hget⟩)
    · cases hanswer
      cases hdict
      cases hget
    · cases hanswer
      cases hdict
      cases hget

/-- The answer with an object that is empty in place of the entries. -/
def emptyObjectAnswer : Answer :=
  .response 200 (.ok (.obj [("iss", .str "a"), ("entries", .obj [])]))

/-- The agent `a` has a list of one jti in force. An answer with an empty object in place of the
entries replaces it by an empty list. -/
theorem empty_object_replaces_list :
    ¬∀ (sdk : Sdk) (py : PyLib), py.Documented → ∀ {s₀ s : AgentSystem}, AgentStart s₀ →
      s₀.server.cpConfigured = true → Reach (agentStep sdk py) anyStep s₀ s →
      ∀ (quiet : Bool) (answer : Answer) {now : ℚ} {signSalt salt : Nat},
      0 < s.server.issuedRevocations.ttlSecs → OwnLists sdk py now signSalt salt →
        AllOrNothing py s.server.aid answer s.server.issuedRevocations
          (refreshRevocations sdk py s.server.issuedRevocations s.server.revocation s.server.aid
            quiet answer now signSalt salt).1 s.server.revocation
          (refreshRevocations sdk py s.server.issuedRevocations s.server.revocation s.server.aid
            quiet answer now signSalt salt).2 now := by
  intro hclaim
  have hexec : (exec (agentStep agentSdk agentLib) anyStep newAgent
      [.startRefresh true, .resume 0 (entriesAnswer "a" [jtiA]) 1 0, .emitted 0 0]).map
        (fun s => (s.server.aid, s.server.issuedRevocations.ttlSecs,
          s.server.issuedRevocations.current,
          (refreshRevocations agentSdk agentLib s.server.issuedRevocations s.server.revocation
            s.server.aid true emptyObjectAnswer 30 0 0).1.current)) =
      some ("a", 3600, some ⟨"list of a", "a", 1, 0, 3600⟩,
        some ⟨"empty list of a", "a", 0, 0, 3600⟩) := by
    decide +kernel
  obtain ⟨s, hrun, heq⟩ := exists_reach_of_exec hexec
  simp only [Prod.mk.injEq] at heq
  obtain ⟨haid, httl, hcur, hcur'⟩ := heq
  rcases hclaim agentSdk agentLib agentLib_documented newAgent_start rfl hrun true
    emptyObjectAnswer (by rw [httl]; decide) agentSdk_ownLists with
    ⟨jtis, _, _, _, _, hformed, -⟩ | ⟨hkept, -⟩
  · obtain ⟨items, ⟨body, d, hanswer, hdict, -, hget⟩, -⟩ := hformed
    cases hanswer
    cases hdict
    cases hget
  · rw [hcur, hcur'] at hkept
    exact absurd hkept (by decide)

end AitpPlayground.Proofs.Agents
