import InputServer.PasswordEncoding
import InputServer.SecureContext

namespace InputServer.Secure
set_option autoImplicit true

def KEY_BACKSPACE : UInt16 := 14
def KEY_LEFTSHIFT : UInt16 := 42
def KEY_RIGHTSHIFT : UInt16 := 54

/-- Only a hash, and no user name, is in the context. -/
def authFlagUserHash : UInt32 := 0x80

/-- `AUTH_FIELD_*`. -/
inductive AuthField where
  | username
  | password
  | passwordConfirm
  | passwordPrevious
deriving DecidableEq

/-- `auth_input_state` and `collect_password`; a field holds the bytes before its terminator. -/
structure AuthInput where
  field : AuthField → Option (List UInt8)
  currentField : AuthField
  cursor : Nat
  collectPassword : Bool

def authGetField (s : AuthInput) (f : AuthField) : List UInt8 :=
  (s.field f).getD []

def authCurrentTabOrder (flags : UInt32) : List AuthField :=
  if flags &&& authFlagChangeLocalPw ≠ 0 then [.passwordPrevious, .password, .passwordConfirm]
  else if flags &&& authFlagConfirmPw ≠ 0 then [.password, .passwordConfirm]
  else if flags &&& authFlagRemoteUser ≠ 0 then [.password, .username]
  else [.password]

/-- A field that cannot be tabbed to counts as the first one. -/
def authGetFieldTabindex (flags : UInt32) (f : AuthField) : Nat :=
  ((authCurrentTabOrder flags).idxOf? f).getD 0

/-- Where `auth_tab` moves the focus; the index is wrapped. -/
def tabbedField (flags : UInt32) (direction : Int) (f : AuthField) : AuthField :=
  let order := authCurrentTabOrder flags
  let tabindex := (authGetFieldTabindex flags f + direction) % order.length
  order.getD tabindex.toNat f

def authTab (flags : UInt32) (direction : Int) (s : AuthInput) : AuthInput :=
  let f := tabbedField flags direction s.currentField
  { s with currentField := f, cursor := (authGetField s f).length }

def authFigureInitialFocus (ctx : AuthContext) : AuthField :=
  if ctx.flags &&& authFlagChangeLocalPw ≠ 0 then .passwordPrevious
  else if ctx.flags &&& authFlagSetLocalPw ≠ 0 then .password
  else if ctx.flags &&& authFlagConfirmPw ≠ 0 ∨ ctx.flags &&& authFlagSetRootPw ≠ 0 then .password
  else if ctx.user = "" then .username
  else .password

def authBackspace (f : AuthField) (s : AuthInput) : AuthInput :=
  match s.field f with
  | none => s
  | some bytes =>
    if 0 < bytes.length then
      { s with
        field := Function.update s.field f (some (bytes.take (bytes.length - 1)))
        cursor := s.cursor - 1 }
    else s

/-- The loop that makes room for `n` bytes at `cu`, the last of the bytes behind it first. -/
def shiftUp (n cu : Nat) : Nat → List UInt8 → List UInt8
  | 0, buf => buf
  | k + 1, buf => shiftUp n cu k (buf.set (cu + n + k) (buf.getD (cu + k) 0))

def authCollectKey (f : AuthField) (ascii : Int) (s : AuthInput) : AuthInput :=
  if !s.collectPassword then s
  else
    let old := authGetField s f
    let len := old.length
    let cu := if len < s.cursor then len else s.cursor
    if 0 ≤ ascii then
      let buf := (shiftUp 1 cu (len - cu) (old ++ [0, 0])).set cu (.ofInt ascii)
      { s with
        field := Function.update s.field f (some (buf.take (len + 1)))
        cursor := s.cursor + 1 }
    else
      let ascii := UInt8.ofInt (256 + ascii)
      let first := (0xC0 : UInt8) ||| ((ascii >>> 6) &&& 0x1F)
      let second := (0x80 : UInt8) ||| (ascii &&& 0x3F)
      let buf := ((shiftUp 2 cu (len - cu) (old ++ [0, 0, 0])).set cu first).set (cu + 1) second
      { s with
        field := Function.update s.field f (some (buf.take (len + 2)))
        cursor := s.cursor + 2 }

/-- What the fields hold when the window opens; `names` recovers a user name from its hash. -/
def inputClearPasswd (ctx : Option AuthContext) (names : String → String) (s : AuthInput) :
    AuthInput :=
  match ctx with
  | none => { s with field := fun _ => none }
  | some ctx =>
    let username := if ctx.flags &&& authFlagUserHash ≠ 0 then names ctx.user else ctx.user
    { s with
      field := fun
        | .username => some (utf8 username.toList)
        | _ => some []
      currentField := authFigureInitialFocus ctx
      cursor := 0 }

/-- The keys that select a table of the keymap. -/
def modifiers : List (List UInt16) :=
  [[], [KEY_RIGHTSHIFT, KEY_LEFTSHIFT], [KEY_RIGHTALT], [], [KEY_RIGHTCTRL, KEY_LEFTCTRL], [], [],
    [], [KEY_LEFTALT]]

/-- `bind` is the console's keymap, by key and table. -/
def keycode2ascii (pressed : UInt16 → Bool) (bind : UInt8 → UInt8 → UInt8) (keycode : UInt16) :
    UInt8 :=
  let table := (List.range 9).foldl
    (fun table i => if (modifiers.getD i []).any pressed then table ||| .ofNat i else table) 0
  let value := bind keycode.toUInt8 table
  if (32 ≤ value ∧ value ≤ 126) ∨ 128 ≤ value then value else 0

/-- The press of a key that edits the fields, with the keys held and the keymap of then. -/
structure FieldKey where
  code : UInt16
  pressed : UInt16 → Bool
  bind : UInt8 → UInt8 → UInt8
  edits : code ≠ KEY_ESC ∧ code ≠ KEY_ENTER

def FieldKey.ascii (k : FieldKey) : UInt8 :=
  keycode2ascii k.pressed k.bind k.code

def FieldKey.direction (k : FieldKey) : Int :=
  if k.pressed KEY_RIGHTSHIFT ∨ k.pressed KEY_LEFTSHIFT then -1 else 1

/-- The switch of `input_secure_mode`, but for the keys that end the editing. The character is a
`char`, which is signed. -/
def editKey (flags : UInt32) (k : FieldKey) (s : AuthInput) : AuthInput :=
  if k.code = KEY_TAB then authTab flags k.direction s
  else if k.code = KEY_BACKSPACE then authBackspace s.currentField s
  else if k.ascii ≠ 0 then authCollectKey s.currentField k.ascii.toInt8.toInt s
  else s

/-- What happens to the fields: their collection is switched on, or a key is pressed. -/
inductive FieldAct where
  | collect
  | key (k : FieldKey)

def editAct (flags : UInt32) : FieldAct → AuthInput → AuthInput
  | .collect, s => { s with collectPassword := true }
  | .key k, s => editKey flags k s

def editActs (flags : UInt32) (acts : List FieldAct) (s : AuthInput) : AuthInput :=
  acts.foldl (fun s act => editAct flags act s) s

/-- A line editor with the same fields: each one is a list of characters. -/
structure Editor where
  chars : AuthField → List Char
  focus : AuthField
  collecting : Bool

def Editor.key (flags : UInt32) (k : FieldKey) (ed : Editor) : Editor :=
  if k.code = KEY_TAB then { ed with focus := tabbedField flags k.direction ed.focus }
  else if k.code = KEY_BACKSPACE then
    { ed with chars := Function.update ed.chars ed.focus (ed.chars ed.focus).dropLast }
  else if k.ascii ≠ 0 ∧ ed.collecting then
    { ed with
      chars := Function.update ed.chars ed.focus (ed.chars ed.focus ++ [.ofNat k.ascii.toNat]) }
  else ed

def Editor.act (flags : UInt32) : FieldAct → Editor → Editor
  | .collect, ed => { ed with collecting := true }
  | .key k, ed => ed.key flags k

def Editor.acts (flags : UInt32) (acts : List FieldAct) (ed : Editor) : Editor :=
  acts.foldl (fun ed act => ed.act flags act) ed

/-- The fields hold what the editor holds, and the cursor is behind the last of it. -/
structure Shows (ed : Editor) (s : AuthInput) : Prop where
  field : ∀ f, s.field f = some (utf8 (ed.chars f))
  focus : s.currentField = ed.focus
  cursor : s.cursor = (utf8 (ed.chars ed.focus)).length
  collecting : s.collectPassword = ed.collecting

/-- What is in the current field does not end within a character of several bytes. -/
def AuthInput.EndsInAscii (s : AuthInput) : Prop :=
  ∀ b ∈ (authGetField s s.currentField).getLast?, b < 128

section
variable {c : Char} {cs : List Char}

theorem utf8_concat (cs : List Char) (c : Char) :
    utf8 (cs ++ [c]) = utf8 cs ++ String.utf8EncodeChar c := by
  unfold utf8
  rw [List.flatMap_append, List.flatMap_singleton]

/-- The last byte of a character tells whether it is the only one. -/
theorem encodeChar_cases (c : Char) :
    (∃ b, String.utf8EncodeChar c = [b] ∧ b < 128) ∨
      ∃ bs b, String.utf8EncodeChar c = bs ++ [b] ∧ bs ≠ [] ∧ ¬b < 128 := by
  have htail (v : Nat) : ¬UInt8.ofNat (v % 64 + 128) < 128 := by
    rw [UInt8.lt_iff_toNat_lt, UInt8.toNat_ofNat']
    change ¬(v % 64 + 128) % 256 < 128
    omega
  unfold String.utf8EncodeChar
  dsimp only
  generalize c.val.toNat = v
  split_ifs with hone htwo hthree
  · refine .inl ⟨_, rfl, ?_⟩
    rw [UInt8.lt_iff_toNat_lt, UInt8.toNat_ofNat']
    change v % 256 < 128
    omega
  · exact .inr ⟨[_], _, rfl, List.cons_ne_nil _ _, htail v⟩
  · exact .inr ⟨[_, _], _, rfl, List.cons_ne_nil _ _, htail v⟩
  · exact .inr ⟨[_, _, _], _, rfl, List.cons_ne_nil _ _, htail v⟩

/-- Without its last byte, a text is a character shorter just when that byte was a character. -/
theorem utf8_dropLast_iff (cs : List Char) :
    (utf8 cs).dropLast = utf8 cs.dropLast ↔ ∀ b ∈ (utf8 cs).getLast?, b < 128 := by
  induction cs using List.reverseRecOn with
  | nil =>
    refine iff_of_true rfl ?_
    intro b hb
    cases hb
  | append_singleton cs c _ =>
    rw [List.dropLast_concat, utf8_concat]
    obtain ⟨b, hchar, hlt⟩ | ⟨bs, b, hchar, hne, hge⟩ := encodeChar_cases c
    · rw [hchar, List.dropLast_concat, List.getLast?_concat]
      refine iff_of_true rfl ?_
      intro b' hb'
      rw [← Option.some.inj hb']
      exact hlt
    · rw [hchar, ← List.append_assoc, List.dropLast_concat, List.getLast?_concat]
      refine iff_of_false ?_ fun h => hge (h b rfl)
      intro heq
      exact hne (List.append_right_eq_self.1 heq)

end

section
variable {ed : Editor} {s : AuthInput} {flags : UInt32}

theorem Shows.authGetField (h : Shows ed s) (f : AuthField) :
    authGetField s f = utf8 (ed.chars f) := by
  unfold Secure.authGetField
  rw [h.field f, Option.getD_some]

/-- The start of the fields when the window opens, and of the editor. -/
def openedFields (ctx : AuthContext) (names : String → String) (s : AuthInput) : AuthInput :=
  { inputClearPasswd (some ctx) names s with collectPassword := false }

def openedEditor (ctx : AuthContext) (names : String → String) : Editor where
  chars
    | .username =>
      (if ctx.flags &&& authFlagUserHash ≠ 0 then names ctx.user else ctx.user).toList
    | _ => []
  focus := authFigureInitialFocus ctx
  collecting := false

theorem opened_shows_iff (ctx : AuthContext) (names : String → String) (s : AuthInput) :
    Shows (openedEditor ctx names) (openedFields ctx names s) ↔
      (openedEditor ctx names).chars (authFigureInitialFocus ctx) = [] := by
  constructor
  · intro h
    have hcursor := h.cursor
    change 0 = (utf8 ((openedEditor ctx names).chars (authFigureInitialFocus ctx))).length at hcursor
    cases hchars : (openedEditor ctx names).chars (authFigureInitialFocus ctx) with
    | nil => rfl
    | cons c cs =>
      rw [hchars, utf8_cons, List.length_append] at hcursor
      have hpos : 0 < (String.utf8EncodeChar c).length :=
        List.length_pos_of_ne_nil String.utf8EncodeChar_ne_nil
      omega
  · intro h
    refine ⟨?_, rfl, ?_, rfl⟩
    · intro f
      cases f <;> rfl
    · change 0 = (utf8 ((openedEditor ctx names).chars (authFigureInitialFocus ctx))).length
      rw [h]
      rfl

theorem shows_tab (h : Shows ed s) (direction : Int) :
    Shows { ed with focus := tabbedField flags direction ed.focus }
      (authTab flags direction s) := by
  unfold authTab
  rw [h.focus]
  refine ⟨h.field, rfl, ?_, h.collecting⟩
  exact congrArg List.length (h.authGetField _)

/-- A Backspace is the editor's just when it does not take a part of a character. -/
theorem shows_backspace_iff (h : Shows ed s) :
    Shows { ed with chars := Function.update ed.chars ed.focus (ed.chars ed.focus).dropLast }
      (authBackspace s.currentField s) ↔ s.EndsInAscii := by
  have hends : s.EndsInAscii ↔ ∀ b ∈ (utf8 (ed.chars ed.focus)).getLast?, b < 128 := by
    unfold AuthInput.EndsInAscii
    rw [h.focus, h.authGetField]
  rw [hends, ← utf8_dropLast_iff]
  unfold authBackspace
  rw [h.focus, h.field]
  dsimp only
  by_cases hlength : 0 < (utf8 (ed.chars ed.focus)).length
  · rw [if_pos hlength, ← List.dropLast_eq_take]
    constructor
    · intro hshows
      have hfield := hshows.field ed.focus
      dsimp only at hfield
      rw [Function.update_self, Function.update_self] at hfield
      exact Option.some.inj hfield
    · intro hdrop
      refine ⟨?_, rfl, ?_, h.collecting⟩
      · intro f
        dsimp only
        by_cases hf : f = ed.focus
        · rw [hf, Function.update_self, Function.update_self, hdrop]
        · rw [Function.update_of_ne hf, Function.update_of_ne hf, h.field]
      · dsimp only
        rw [Function.update_self, ← hdrop, List.length_dropLast, h.cursor]
  · have hnil : utf8 (ed.chars ed.focus) = [] :=
      List.length_eq_zero_iff.1 (Nat.eq_zero_of_not_pos hlength)
    have hchars : ed.chars ed.focus = [] := by
      cases hcs : ed.chars ed.focus with
      | nil => rfl
      | cons c cs =>
        rw [hcs, utf8_cons] at hnil
        exact absurd (List.append_eq_nil_iff.1 hnil).1 String.utf8EncodeChar_ne_nil
    have hsame : Function.update ed.chars ed.focus (ed.chars ed.focus).dropLast = ed.chars := by
      rw [hchars]
      exact Function.update_eq_self_iff.2 hchars.symm
    rw [if_neg hlength, hsame]
    refine iff_of_true h ?_
    rw [hchars]
    rfl

/-- The bytes that are put in for a character of the keymap. -/
def typedBytes (ascii : Int) : List UInt8 :=
  if 0 ≤ ascii then [.ofInt ascii]
  else
    let ascii := UInt8.ofInt (256 + ascii)
    [(0xC0 : UInt8) ||| ((ascii >>> 6) &&& 0x1F), (0x80 : UInt8) ||| (ascii &&& 0x3F)]

/-- They are its UTF-8 encoding. -/
theorem typedBytes_eq (v : UInt8) :
    typedBytes v.toInt8.toInt = String.utf8EncodeChar (.ofNat v.toNat) := by
  have hall : ∀ n : Fin 256, typedBytes (UInt8.ofNat n).toInt8.toInt =
      String.utf8EncodeChar (.ofNat (UInt8.ofNat n).toNat) := by
    decide +kernel
  have hv := hall ⟨v.toNat, v.toNat_lt⟩
  rwa [UInt8.ofNat_toNat] at hv

theorem set_end_one (old : List UInt8) (a : UInt8) :
    ((old ++ [0, 0]).set old.length a).take (old.length + 1) = old ++ [a] := by
  rw [List.set_append_right _ _ (Nat.le_refl _), Nat.sub_self, List.take_append,
    List.take_of_length_le (Nat.le_succ _), Nat.add_sub_cancel_left]
  rfl

theorem set_end_two (old : List UInt8) (a b : UInt8) :
    (((old ++ [0, 0, 0]).set old.length a).set (old.length + 1) b).take (old.length + 2) =
      old ++ [a, b] := by
  rw [List.set_append_right _ _ (Nat.le_refl _), Nat.sub_self,
    List.set_append_right _ _ (show old.length ≤ old.length + 1 from Nat.le_succ _),
    Nat.add_sub_cancel_left, List.take_append,
    List.take_of_length_le (Nat.le_add_right _ _), Nat.add_sub_cancel_left]
  rfl

/-- With the cursor behind its last byte a field gets the bytes there. -/
theorem authCollectKey_end {f : AuthField} (hcollect : s.collectPassword = true)
    (hcursor : s.cursor = (authGetField s f).length) (ascii : Int) :
    authCollectKey f ascii s = { s with
      field := Function.update s.field f (some (authGetField s f ++ typedBytes ascii))
      cursor := s.cursor + (typedBytes ascii).length } := by
  unfold authCollectKey typedBytes
  rw [hcollect, Bool.not_true, if_neg Bool.false_ne_true, hcursor]
  dsimp only
  rw [if_neg (Nat.lt_irrefl _), Nat.sub_self]
  unfold shiftUp
  split
  · rw [set_end_one]
    rfl
  · rw [set_end_two]
    rfl

theorem shows_collect (h : Shows ed s) (v : UInt8) (hcollect : ed.collecting = true) :
    Shows { ed with
        chars := Function.update ed.chars ed.focus (ed.chars ed.focus ++ [.ofNat v.toNat]) }
      (authCollectKey s.currentField v.toInt8.toInt s) := by
  have hcursor : s.cursor = (authGetField s s.currentField).length := by
    rw [h.cursor, h.authGetField, h.focus]
  rw [authCollectKey_end (h.collecting.trans hcollect) hcursor, typedBytes_eq, h.authGetField,
    h.focus]
  refine ⟨?_, rfl, ?_, h.collecting⟩
  · intro f
    dsimp only
    by_cases hf : f = ed.focus
    · rw [hf, Function.update_self, Function.update_self, utf8_concat]
    · rw [Function.update_of_ne hf, Function.update_of_ne hf, h.field]
  · dsimp only
    rw [Function.update_self, utf8_concat, List.length_append, h.cursor]

/-- One step: what happens to the fields happens to the editor, but for a Backspace that takes a
part of a character. -/
theorem shows_act_iff (h : Shows ed s) (act : FieldAct) :
    Shows (ed.act flags act) (editAct flags act s) ↔
      ∀ k, act = .key k → k.code = KEY_BACKSPACE → s.EndsInAscii := by
  cases act with
  | collect =>
    refine iff_of_true ⟨h.field, h.focus, h.cursor, rfl⟩ ?_
    intro k hk
    cases hk
  | key k =>
    have honly : (∀ k', FieldAct.key k = .key k' → k'.code = KEY_BACKSPACE → s.EndsInAscii) ↔
        (k.code = KEY_BACKSPACE → s.EndsInAscii) := by
      constructor
      · intro hall
        exact hall k rfl
      · intro hk k' heq
        cases heq
        exact hk
    rw [honly]
    change Shows (ed.key flags k) (editKey flags k s) ↔ _
    unfold Editor.key editKey
    by_cases htab : k.code = KEY_TAB
    · rw [if_pos htab, if_pos htab]
      refine iff_of_true (shows_tab h _) ?_
      intro hback
      rw [htab] at hback
      exact absurd hback (by decide)
    rw [if_neg htab, if_neg htab]
    by_cases hback : k.code = KEY_BACKSPACE
    · rw [if_pos hback, if_pos hback, shows_backspace_iff h]
      exact ⟨fun hends _ => hends, fun hends => hends hback⟩
    rw [if_neg hback, if_neg hback]
    refine iff_of_true ?_ fun hback' => absurd hback' hback
    by_cases hascii : k.ascii = 0
    · rw [if_neg fun hne => hne.1 hascii, if_neg fun hne => hne hascii]
      exact h
    · rw [if_pos (show k.ascii ≠ 0 from hascii)]
      by_cases hcollect : ed.collecting = true
      · rw [if_pos ⟨hascii, hcollect⟩]
        exact shows_collect h k.ascii hcollect
      · have hoff : s.collectPassword = false := by
          rw [h.collecting]
          exact Bool.eq_false_iff.2 hcollect
        rw [if_neg fun hboth => hcollect hboth.2]
        unfold authCollectKey
        rw [hoff, Bool.not_false, if_pos rfl]
        exact h

theorem editActs_concat (acts : List FieldAct) (act : FieldAct) :
    editActs flags (acts ++ [act]) s = editAct flags act (editActs flags acts s) := by
  unfold editActs
  rw [List.foldl_append]
  rfl

theorem acts_concat (acts : List FieldAct) (act : FieldAct) :
    ed.acts flags (acts ++ [act]) = (ed.acts flags acts).act flags act := by
  unfold Editor.acts
  rw [List.foldl_append]
  rfl

/-- The run: it starts in step, and no Backspace takes a part of a character. -/
theorem shows_acts_iff (acts : List FieldAct) :
    (∀ l₁ l₂, acts = l₁ ++ l₂ → Shows (ed.acts flags l₁) (editActs flags l₁ s)) ↔
      Shows ed s ∧ ∀ l₁ k l₂, acts = l₁ ++ .key k :: l₂ → k.code = KEY_BACKSPACE →
        (editActs flags l₁ s).EndsInAscii := by
  constructor
  · intro h
    refine ⟨h [] acts rfl, ?_⟩
    intro l₁ k l₂ hacts hback
    have hbefore := h l₁ (.key k :: l₂) hacts
    have hafter := h (l₁ ++ [.key k]) l₂ (by rw [hacts, List.append_assoc]; rfl)
    rw [editActs_concat, acts_concat] at hafter
    exact (shows_act_iff hbefore (.key k)).1 hafter k rfl hback
  · intro h
    obtain ⟨hstart, hends⟩ := h
    intro l₁
    induction l₁ using List.reverseRecOn with
    | nil =>
      intro _ _
      exact hstart
    | append_singleton l₁ act ih =>
      intro l₂ hacts
      have hsplit : acts = l₁ ++ act :: l₂ := by
        rw [hacts, List.append_assoc]
        rfl
      rw [editActs_concat, acts_concat]
      apply (shows_act_iff (ih (act :: l₂) hsplit) act).2
      intro k hk
      rw [hk] at hsplit
      exact hends l₁ k l₂ hsplit

/-- The fields behave like a line editor exactly when the first field is empty as the window opens,
and no Backspace comes behind a character of several bytes. -/
theorem fields_edited_iff (ctx : AuthContext) (names : String → String) (s : AuthInput)
    (acts : List FieldAct) :
    (∀ l₁ l₂, acts = l₁ ++ l₂ → Shows ((openedEditor ctx names).acts ctx.flags l₁)
        (editActs ctx.flags l₁ (openedFields ctx names s))) ↔
      (openedEditor ctx names).chars (authFigureInitialFocus ctx) = [] ∧
        ∀ l₁ k l₂, acts = l₁ ++ .key k :: l₂ → k.code = KEY_BACKSPACE →
          (editActs ctx.flags l₁ (openedFields ctx names s)).EndsInAscii := by
  rw [shows_acts_iff, opened_shows_iff]

end

/-- A key on which the keymap has an accented letter. -/
def accentedKey : FieldKey where
  code := 3
  pressed _ := false
  bind _ _ := 0xE9
  edits := by decide

def backspaceKey : FieldKey where
  code := KEY_BACKSPACE
  pressed _ := false
  bind _ _ := 0
  edits := by decide

theorem backspace_leaves_half : ¬∀ (ctx : AuthContext) (names : String → String) (s : AuthInput)
    (acts l₁ l₂ : List FieldAct), acts = l₁ ++ l₂ →
      Shows ((openedEditor ctx names).acts ctx.flags l₁)
        (editActs ctx.flags l₁ (openedFields ctx names s)) := by
  intro h
  let ctx : AuthContext := { user := "user", title := "", flags := 0 }
  let s : AuthInput :=
    { field := fun _ => none, currentField := .password, cursor := 0, collectPassword := false }
  have hends := (shows_acts_iff [.collect, .key accentedKey, .key backspaceKey]).1
    (h ctx id s [.collect, .key accentedKey, .key backspaceKey])
  have hlast := hends.2 [.collect, .key accentedKey] backspaceKey [] rfl rfl 0xA9
    (Option.mem_def.2 (by decide +kernel))
  exact absurd hlast (by decide)

end InputServer.Secure
