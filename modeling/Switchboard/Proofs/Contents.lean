import Switchboard.Chat.Request

namespace Switchboard

/-!
# Reading and replacing what a request is routed by

The texts of a content, the content of a message and the messages of a request are each read by one
function and replaced by another.  Both go by the same view, so what is put back is what is read
afterwards, putting back what is there changes nothing, and the members that other views look at
keep their values.
-/

namespace Json

/-! ## Members of an object -/

theorem member?_cons (key : Text) (value : Json) (members : Members) (other : Text) :
    member? ((key, value) :: members) other =
      if other = key then some value else member? members other := by
  rw [member?, List.lookup_cons, member?]
  by_cases same : other = key
  · rw [if_pos same, beq_iff_eq.mpr same]
  · rw [if_neg same, beq_eq_false_iff_ne.mpr same]

theorem member?_setMember_self (members : Members) (key : Text) (value : Json) :
    member? (setMember members key value) key = some value := by
  induction members with
  | nil => rw [setMember, member?_cons, if_pos rfl]
  | cons entry members inductionHypothesis =>
      rcases entry with ⟨name, old⟩
      rw [setMember]
      by_cases same : name = key
      · rw [if_pos same, member?_cons, if_pos same.symm]
      · rw [if_neg same, member?_cons, if_neg (Ne.symm same)]
        exact inductionHypothesis

theorem member?_setMember_of_ne (members : Members) {key other : Text} (different : other ≠ key)
    (value : Json) : member? (setMember members key value) other = member? members other := by
  induction members with
  | nil => rw [setMember, member?_cons, if_neg different]
  | cons entry members inductionHypothesis =>
      rcases entry with ⟨name, old⟩
      rw [setMember]
      by_cases same : name = key
      · rw [if_pos same, member?_cons, member?_cons, same]
        rw [if_neg different, if_neg different]
      · rw [if_neg same, member?_cons, member?_cons, inductionHypothesis]

/-- Setting a member to the value that it has changes nothing. -/
theorem setMember_of_member? {members : Members} {key : Text} {value : Json}
    (held : member? members key = some value) : setMember members key value = members := by
  induction members with
  | nil => cases held
  | cons entry members inductionHypothesis =>
      rcases entry with ⟨name, old⟩
      rw [member?_cons] at held
      rw [setMember]
      by_cases same : name = key
      · rw [if_pos same.symm] at held
        injection held with equal
        rw [if_pos same, equal]
      · rw [if_neg (Ne.symm same)] at held
        rw [if_neg same, inductionHypothesis held]

/-- Of two values for one key the later one stays. -/
theorem setMember_setMember (members : Members) (key : Text) (first second : Json) :
    setMember (setMember members key first) key second = setMember members key second := by
  induction members with
  | nil => exact if_pos rfl
  | cons entry members inductionHypothesis =>
      rcases entry with ⟨name, old⟩
      rw [setMember, setMember]
      by_cases same : name = key
      · rw [if_pos same, if_pos same, setMember, if_pos same]
      · rw [if_neg same, if_neg same, setMember, if_neg same, inductionHypothesis]

end Json

namespace Chat

open Json

/-! ## The texts of a content -/

theorem typeKey_ne_textKey : typeKey ≠ textKey := by
  decide

/-- A part holds its text as it is, or under the key of texts. -/
theorem partText?_cases {part : Json} {text : Text} (held : partText? part = some text) :
    part = .text text ∨ Exists fun members : Members => part = .object members ∧
      isTextPart members = true ∧ member? members textKey = some (.text text) := by
  cases part with
  | text value =>
      injection held with same
      exact Or.inl (congrArg Json.text same)
  | object members =>
      rw [partText?] at held
      split at held
      · rename_i isText
        split at held
        · rename_i value found
          injection held with same
          exact Or.inr ⟨members, rfl, isText, same ▸ found⟩
        · cases held
      · cases held
  | null => cases held
  | bool value => cases held
  | integer value => cases held
  | decimal mantissa exponent => cases held
  | array items => cases held

theorem partText?_withPartText {part : Json} {old : Text} (held : partText? part = some old)
    (text : Text) : partText? (withPartText text part) = some text := by
  rcases partText?_cases held with same | ⟨members, same, isText, _⟩
  · rw [same]
    rfl
  · have typed : isTextPart (setMember members textKey (.text text)) = true := by
      rw [isTextPart, member?_setMember_of_ne members typeKey_ne_textKey]
      exact isText
    rw [same, withPartText, partText?, if_pos typed, member?_setMember_self]

theorem withPartText_self {part : Json} {text : Text} (held : partText? part = some text) :
    withPartText text part = part := by
  rcases partText?_cases held with same | ⟨members, same, _, found⟩
  · rw [same]
    rfl
  · rw [same, withPartText, setMember_of_member? found]

theorem texts_replaceParts (parts : List Json) {replacements : List Text}
    (sameLength : replacements.length = (parts.filterMap partText?).length) :
    (replaceParts parts replacements).filterMap partText? = replacements := by
  induction parts generalizing replacements with
  | nil =>
      rw [replaceParts]
      exact (List.length_eq_zero_iff.mp sameLength).symm
  | cons part parts inductionHypothesis =>
      cases held : partText? part with
      | some old =>
          rw [List.filterMap_cons_some held] at sameLength
          cases replacements with
          | nil => cases sameLength
          | cons text rest =>
              have below := inductionHypothesis (Nat.succ.inj sameLength)
              simp only [replaceParts, held]
              rw [List.filterMap_cons_some (partText?_withPartText held text), below]
      | none =>
          rw [List.filterMap_cons_none held] at sameLength
          have below := inductionHypothesis sameLength
          cases replacements with
          | nil =>
              rw [replaceParts, List.filterMap_cons_none held]
              · exact List.length_eq_zero_iff.mp sameLength.symm
              · intro impossible
                cases impossible
          | cons text rest =>
              simp only [replaceParts, held]
              rw [List.filterMap_cons_none held, below]

theorem replaceParts_texts (parts : List Json) :
    replaceParts parts (parts.filterMap partText?) = parts := by
  induction parts with
  | nil => rw [replaceParts]
  | cons part parts inductionHypothesis =>
      cases held : partText? part with
      | some text =>
          rw [List.filterMap_cons_some held]
          simp only [replaceParts, held]
          rw [withPartText_self held, inductionHypothesis]
      | none =>
          rw [List.filterMap_cons_none held]
          cases rest : parts.filterMap partText? with
          | nil =>
              rw [replaceParts]
              intro impossible
              cases impossible
          | cons text others =>
              rw [rest] at inductionHypothesis
              simp only [replaceParts, held]
              rw [inductionHypothesis]

/-- The texts that are put into a content are read from it afterwards. -/
theorem texts_replaceTexts (content : Json) {replacements : List Text}
    (sameLength : replacements.length = (texts content).length) :
    texts (replaceTexts content replacements) = replacements := by
  cases content with
  | text value =>
      rcases List.length_eq_one_iff.mp sameLength with ⟨text, same⟩
      rw [same]
      rfl
  | array parts => exact texts_replaceParts parts sameLength
  | null => exact (List.length_eq_zero_iff.mp sameLength).symm
  | bool value => exact (List.length_eq_zero_iff.mp sameLength).symm
  | integer value => exact (List.length_eq_zero_iff.mp sameLength).symm
  | decimal mantissa exponent => exact (List.length_eq_zero_iff.mp sameLength).symm
  | object members => exact (List.length_eq_zero_iff.mp sameLength).symm

/-- Putting back the texts that a content has changes nothing. -/
theorem replaceTexts_texts (content : Json) : replaceTexts content (texts content) = content := by
  cases content with
  | array parts => exact congrArg Json.array (replaceParts_texts parts)
  | text value => rfl
  | null => rfl
  | bool value => rfl
  | integer value => rfl
  | decimal mantissa exponent => rfl
  | object members => rfl

/-! ## The content of the last user message -/

theorem roleKey_ne_contentKey : Text.ofString "role" ≠ contentKey := by
  decide

theorem messagesKey_ne_modelKey : messagesKey ≠ modelKey := by
  decide

theorem isUserMessage_withContent (content message : Json) :
    isUserMessage (withContent content message) = isUserMessage message := by
  cases message with
  | object members =>
      rw [withContent, isUserMessage, isUserMessage,
        member?_setMember_of_ne members roleKey_ne_contentKey]
  | text value => rfl
  | array parts => rfl
  | null => rfl
  | bool value => rfl
  | integer value => rfl
  | decimal mantissa exponent => rfl

theorem lastUser?_modify (items : List Json) (place : Nat) (content : Json) :
    lastUser? (items.modify place (withContent content)) = lastUser? items := by
  induction items generalizing place with
  | nil => cases place <;> rfl
  | cons message items inductionHypothesis =>
      cases place with
      | zero =>
          rw [List.modify_zero_cons, lastUser?, lastUser?, isUserMessage_withContent]
      | succ place =>
          rw [List.modify_succ_cons, lastUser?, lastUser?, inductionHypothesis]

/-- The last user message is there and is an object. -/
theorem lastUser?_eq_some {items : List Json} {place : Nat} (found : lastUser? items = some place) :
    Exists fun members : Members => items[place]? = some (.object members) := by
  induction items generalizing place with
  | nil => cases found
  | cons message items inductionHypothesis =>
      rw [lastUser?] at found
      split at found
      · rename_i later laterFound
        injection found with same
        rw [← same]
        exact inductionHypothesis laterFound
      · split at found
        · rename_i isUser
          injection found with same
          rw [← same]
          cases message with
          | object members => exact ⟨members, rfl⟩
          | text value => cases isUser
          | array parts => cases isUser
          | null => cases isUser
          | bool value => cases isUser
          | integer value => cases isUser
          | decimal mantissa exponent => cases isUser
        · cases found

theorem messages_withModel (request : Request) (model : Text) :
    messages (withModel request model) = messages request := by
  rw [messages, messages, withModel, member?_setMember_of_ne request messagesKey_ne_modelKey]

theorem latestContent_withModel (request : Request) (model : Text) :
    latestContent (withModel request model) = latestContent request := by
  rw [latestContent, latestContent, latestUser?, latestUser?, messages_withModel]

theorem messages_withLatestContent {request : Request} {place : Nat}
    (latest : latestUser? request = some place) (content : Json) :
    messages (withLatestContent request content) =
      (messages request).modify place (withContent content) := by
  simp only [withLatestContent, latest]
  rw [messages, member?_setMember_self]

/-- The content that is given to the last user message is read from it afterwards. -/
theorem latestContent_withLatestContent {request : Request} {place : Nat}
    (latest : latestUser? request = some place) (content : Json) :
    latestContent (withLatestContent request content) = content := by
  have same : latestUser? (withLatestContent request content) = some place := by
    rw [latestUser?, messages_withLatestContent latest, lastUser?_modify]
    exact latest
  rcases lastUser?_eq_some latest with ⟨members, found⟩
  simp only [latestContent, same]
  rw [messages_withLatestContent latest, List.getElem?_modify_eq, found]
  exact congrArg (Option.getD · .null) (member?_setMember_self members contentKey content)

/-- Without a user message there is no text. -/
theorem latestContent_of_none {request : Request} (absent : latestUser? request = none) :
    latestContent request = .null := by
  rw [latestContent, absent]

/-- A request with one user message whose parts are the given texts. -/
def userRequest (texts : List Text) : Request :=
  [(messagesKey, .array [.object
    [(Text.ofString "role", .text (Text.ofString "user")),
      (contentKey, .array (texts.map Json.text))]])]

theorem texts_userRequest (parts : List Text) :
    texts (latestContent (userRequest parts)) = parts := by
  have content : latestContent (userRequest parts) = .array (parts.map Json.text) := rfl
  rw [content, texts, List.filterMap_map]
  exact List.filterMap_some

end Chat
end Switchboard
