import CloudSpeech.Proofs.Ssml.Escaping
import CloudSpeech.Proofs.Text.Headings
import CloudSpeech.Voice.Catalog

/-!
# What a document says

A document is four tags around the text to speak. A tag ends at its first closing bracket, so the
front of a document tells where its text begins, and which voice it is for. An escaped message
opens no tag: it is the one text between the tags, whatever it holds.
-/

namespace CloudSpeech

namespace Ssml

/-! ## Tags -/

/-- Characters that are one tag: brackets around characters that do not close it. -/
def IsTag (chars : List Char) : Prop := ∃ name, chars = '<' :: (name ++ ['>']) ∧ '>' ∉ name

theorem cut_text {text : List Char} (htext : '<' ∉ text) (held rest : List Char) :
    cut false held (text ++ rest) = cut false (text.reverse ++ held) rest := by
  -- What is held when the text begins grows with every character.
  induction text generalizing held with
  | nil => rfl
  | cons c text ih =>
      obtain ⟨hc, htext⟩ := List.ne_and_not_mem_of_not_mem_cons htext
      rw [List.cons_append, cut, if_neg hc.symm, ih htext, List.reverse_cons, List.append_assoc,
        List.singleton_append]

theorem cut_inside {name : List Char} (hname : '>' ∉ name) (held rest : List Char) :
    cut true held (name ++ '>' :: rest) =
      .tag (held.reverse ++ name ++ ['>']) :: cut false [] rest := by
  induction name generalizing held with
  | nil => simp [cut]
  | cons c name ih =>
      obtain ⟨hc, hname⟩ := List.ne_and_not_mem_of_not_mem_cons hname
      rw [List.cons_append, cut, if_neg hc.symm, ih hname]
      simp

/-- A tag is a piece of its own; what has been read before it is a text. -/
theorem IsTag.cut_append {tag : List Char} (htag : IsTag tag) (held rest : List Char) :
    cut false held (tag ++ rest) =
      consText held.reverse (.tag tag :: cut false [] rest) := by
  obtain ⟨name, rfl, hname⟩ := htag
  rw [List.cons_append, cut, if_pos rfl, List.append_assoc, List.singleton_append,
    cut_inside hname]
  rfl

theorem IsTag.append_inj {tag other rest otherRest : List Char} (htag : IsTag tag)
    (hother : IsTag other) (h : tag ++ rest = other ++ otherRest) :
    tag = other ∧ rest = otherRest := by
  obtain ⟨name, rfl, hname⟩ := htag
  obtain ⟨otherName, rfl, hotherName⟩ := hother
  have hnames : name ++ '>' :: rest = otherName ++ '>' :: otherRest := by simpa using h
  obtain ⟨rfl, rfl⟩ := Text.append_mark_inj hname hotherName hnames
  exact ⟨rfl, rfl⟩

theorem isTag_openSpeak : IsTag openSpeak :=
  ⟨"speak version='1.0' xml:lang='en-us'".toList, by decide, by decide⟩

theorem isTag_closeVoice : IsTag closeVoice := ⟨"/voice".toList, by decide, by decide⟩

theorem isTag_closeSpeak : IsTag closeSpeak := ⟨"/speak".toList, by decide, by decide⟩

/-! ## The tag that names a voice -/

/-- Neither quotes nor brackets occur in what a voice is called. -/
def IsPlain (voice : Voice) : Prop :=
  ∀ c ∈ voice.locale.toList ++ voice.mapping.toList, c ≠ '\'' ∧ c ≠ '>'

theorem isPlain_of_mem_catalog {voice : Voice} (h : voice ∈ Voice.catalog) : IsPlain voice := by
  have hall : ∀ voice ∈ Voice.catalog, (voice.locale.toList ++ voice.mapping.toList).all
      (fun c => c ≠ '\'' ∧ c ≠ '>') = true := by
    decide +kernel
  intro c hc
  exact of_decide_eq_true (List.all_eq_true.mp (hall voice h) c hc)

def family : List Char := "Microsoft Server Speech Text to Speech Voice ".toList

/-- The tag that names a voice has three values, each between quotes. -/
theorem openVoice_eq (voice : Voice) :
    openVoice voice = "<voice xml:lang=".toList ++ '\'' :: (voice.locale.toList ++ '\'' ::
      (" xml:gender='".toList ++ (voice.gender.name.toList ++ '\'' ::
        (" name='".toList ++ (family ++ (voice.mapping.toList ++ '\'' :: ['>'])))))) := by
  have hlocale : "<voice xml:lang='".toList = "<voice xml:lang=".toList ++ ['\''] := by decide
  have hgender : "' xml:gender='".toList = '\'' :: " xml:gender='".toList := by decide
  have hname : "' name='".toList = '\'' :: " name='".toList := by decide
  have hclose : "'>".toList = ['\'', '>'] := by decide
  unfold openVoice Voice.fullName family
  rw [hlocale, hgender, hname, hclose]
  simp only [String.toList_append, List.append_assoc, List.cons_append, List.nil_append]

theorem openVoice_eq_toList (voice : Voice) :
    openVoice voice = ("<voice xml:lang='" ++ voice.locale ++ "' xml:gender='" ++
      voice.gender.name ++ "' name='" ++ voice.fullName ++ "'>").toList := by
  unfold openVoice
  simp only [String.toList_append]

variable {voice other : Voice}

theorem isTag_openVoice (hplain : IsPlain voice) : IsTag (openVoice voice) := by
  have hfront : "<voice xml:lang=".toList = '<' :: "voice xml:lang=".toList := by decide
  refine ⟨"voice xml:lang=".toList ++ '\'' :: (voice.locale.toList ++ '\'' ::
    (" xml:gender='".toList ++ (voice.gender.name.toList ++ '\'' ::
      (" name='".toList ++ (family ++ (voice.mapping.toList ++ ['\''])))))), ?_, ?_⟩
  · rw [openVoice_eq, hfront]
    simp only [List.cons_append, List.append_assoc, List.nil_append]
  · have hlocale : '>' ∉ voice.locale.toList :=
      fun h => (hplain '>' (List.mem_append_left _ h)).2 rfl
    have hmapping : '>' ∉ voice.mapping.toList :=
      fun h => (hplain '>' (List.mem_append_right _ h)).2 rfl
    have hgender : '>' ∉ voice.gender.name.toList := by cases voice.gender <;> decide
    have hfixed : '>' ∉ "voice xml:lang=".toList ∧ '>' ∉ " xml:gender='".toList ∧
        '>' ∉ " name='".toList ∧ '>' ∉ family ∧ '>' ∉ ['\''] ∧ '>' ≠ '\'' := by decide
    simp only [List.mem_append, List.mem_cons, hlocale, hmapping, hgender, hfixed, or_self,
      not_false_eq_true]

theorem openVoice_injective (hplain : IsPlain voice) (hother : IsPlain other)
    (h : openVoice voice = openVoice other) : voice = other := by
  have hquote : ∀ voice : Voice, IsPlain voice → '\'' ∉ voice.locale.toList ∧
      '\'' ∉ voice.gender.name.toList ∧ '\'' ∉ voice.mapping.toList := by
    intro voice hplain
    exact ⟨fun h => (hplain '\'' (List.mem_append_left _ h)).1 rfl,
      by cases voice.gender <;> decide,
      fun h => (hplain '\'' (List.mem_append_right _ h)).1 rfl⟩
  obtain ⟨hlocale, hgender, hmapping⟩ := hquote voice hplain
  obtain ⟨hlocale', hgender', hmapping'⟩ := hquote other hother
  rw [openVoice_eq, openVoice_eq] at h
  -- Each value ends at its first quote, so the three are found one after the other.
  obtain ⟨hlocales, h⟩ := Text.append_mark_inj hlocale hlocale'
    (List.cons.inj (List.append_cancel_left h)).2
  obtain ⟨hgenders, h⟩ := Text.append_mark_inj hgender hgender' (List.append_cancel_left h)
  obtain ⟨hmappings, -⟩ := Text.append_mark_inj hmapping hmapping'
    (List.append_cancel_left (List.append_cancel_left h))
  obtain ⟨locale, gender, mapping⟩ := voice
  obtain ⟨locale', gender', mapping'⟩ := other
  cases String.toList_inj.mp hlocales
  cases Gender.name_injective (String.toList_inj.mp hgenders)
  cases String.toList_inj.mp hmappings
  rfl

/-! ## Documents for the voices of the catalog -/

variable {index otherIndex : Nat}

theorem toList_render (voice : Voice) (message : String) (escapeText : Bool) :
    (render voice message escapeText).toList =
      openSpeak ++ (openVoice voice ++ (body message escapeText ++ (closeVoice ++ closeSpeak))) := by
  simp [render]

theorem body_injective {message otherMessage : String} {escapeText : Bool}
    (h : body message escapeText = body otherMessage escapeText) : message = otherMessage := by
  cases escapeText with
  | true => exact String.toList_inj.mp (escape_injective h)
  | false => exact String.toList_inj.mp h

/-- A document with an escaped message has the four tags of every document, and the message is
the only text in it. -/
theorem pieces_render_escaped (hplain : IsPlain voice) (message : String) :
    pieces (render voice message true) =
      [.tag openSpeak, .tag (openVoice voice)] ++
        consText (escape message.toList) [.tag closeVoice, .tag closeSpeak] := by
  have hclosed : cut false [] closeSpeak = [.tag closeSpeak] := by
    simpa [cut, consText] using isTag_closeSpeak.cut_append [] []
  have hbody : body message true = escape message.toList := rfl
  rw [pieces, toList_render, isTag_openSpeak.cut_append, (isTag_openVoice hplain).cut_append,
    hbody, cut_text (not_mem_escape message.toList), isTag_closeVoice.cut_append, hclosed]
  simp [consText]

theorem render_injective (hplain : IsPlain voice) (hother : IsPlain other)
    {message otherMessage : String} {escapeText : Bool}
    (h : render voice message escapeText = render other otherMessage escapeText) :
    voice = other ∧ message = otherMessage := by
  have hchars := congrArg String.toList h
  rw [toList_render, toList_render] at hchars
  obtain ⟨hopen, hrest⟩ := (isTag_openVoice hplain).append_inj (isTag_openVoice hother)
    (List.append_cancel_left hchars)
  exact ⟨openVoice_injective hplain hother hopen, body_injective (List.append_cancel_right hrest)⟩

theorem isPlain_of_lookup (hvoice : Voice.lookup index = .ok voice) : IsPlain voice :=
  isPlain_of_mem_catalog (List.mem_of_getElem? (Voice.lookup_eq_ok_iff.mp hvoice))

theorem index_unique (hvoice : Voice.lookup index = .ok voice)
    (hother : Voice.lookup otherIndex = .ok voice) : index = otherIndex := by
  have hnodup : Voice.catalog.Nodup := by decide +kernel
  rw [Voice.lookup_eq_ok_iff] at hvoice hother
  obtain ⟨hlt, -⟩ := List.getElem?_eq_some_iff.mp hvoice
  exact (List.getElem?_inj hlt hnodup).mp (hvoice.trans hother.symm)

/-- A document for a voice of the catalog has the four tags of its kind around one text, and the
second tag tells the locale, the gender and the name of the voice. If the message is escaped, it is
read back from that text; if it is not, it is that text. No other voice and no other message makes
the same document. -/
theorem render_conveys_message (hvoice : Voice.lookup index = .ok voice)
    (hother : Voice.lookup otherIndex = .ok other) (message otherMessage : String) :
    (∃ run, pieces (render voice message true) =
        [.tag "<speak version='1.0' xml:lang='en-us'>".toList,
          .tag ("<voice xml:lang='" ++ voice.locale ++ "' xml:gender='" ++ voice.gender.name ++
            "' name='" ++ voice.fullName ++ "'>").toList] ++
          consText run [.tag "</voice>".toList, .tag "</speak>".toList] ∧
      String.ofList (unescape run) = message) ∧
    (∀ escapeText, render voice message escapeText = render other otherMessage escapeText ↔
      index = otherIndex ∧ message = otherMessage) ∧
    ∀ text, (render voice message false).toList =
        openSpeak ++ openVoice voice ++ text ++ "</voice></speak>".toList ↔
      text = message.toList := by
  refine ⟨⟨escape message.toList, ?_, ?_⟩, fun escapeText => ⟨fun hsame => ?_, ?_⟩,
    fun text => ?_⟩
  · rw [← openVoice_eq_toList]
    exact pieces_render_escaped (isPlain_of_lookup hvoice) message
  · rw [unescape_escape, String.ofList_toList]
  · obtain ⟨rfl, hmessages⟩ :=
      render_injective (isPlain_of_lookup hvoice) (isPlain_of_lookup hother) hsame
    exact ⟨index_unique hvoice hother, hmessages⟩
  · rintro ⟨rfl, rfl⟩
    cases Except.ok.inj (hvoice.symm.trans hother)
    rfl
  · have hclosing : "</voice></speak>".toList = closeVoice ++ closeSpeak := by decide
    rw [toList_render, hclosing]
    simp only [List.append_assoc, List.append_cancel_left_eq]
    rw [List.append_cancel_right_eq]
    exact eq_comm

/-- A message that looks like the end of a document and the start of another is one text, and the
next voice does not get the same document for it. -/
theorem render_conveys_markup :
    let message := "</voice></speak><speak>'&lt;' & \"</voice>"
    Voice.lookup 8 = .ok ⟨"en-US", .female, "(en-US, ZiraRUS)"⟩ ∧
      Voice.lookup 9 = .ok ⟨"en-US", .male, "(en-US, BenjaminRUS)"⟩ ∧
      (∃ run, pieces (render ⟨"en-US", .female, "(en-US, ZiraRUS)"⟩ message true) =
          [.tag "<speak version='1.0' xml:lang='en-us'>".toList,
            .tag ("<voice xml:lang='en-US' xml:gender='Female' " ++
              "name='Microsoft Server Speech Text to Speech Voice (en-US, ZiraRUS)'>").toList] ++
            consText run [.tag "</voice>".toList, .tag "</speak>".toList] ∧
        String.ofList (unescape run) = message) ∧
      render ⟨"en-US", .female, "(en-US, ZiraRUS)"⟩ message false ≠
        render ⟨"en-US", .male, "(en-US, BenjaminRUS)"⟩ message false := by
  intro message
  have hvoice : Voice.lookup 8 = .ok ⟨"en-US", .female, "(en-US, ZiraRUS)"⟩ := rfl
  have hother : Voice.lookup 9 = .ok ⟨"en-US", .male, "(en-US, BenjaminRUS)"⟩ := rfl
  obtain ⟨hpieces, hsame, -⟩ := render_conveys_message hvoice hother message message
  have hopening : ("<voice xml:lang='" ++ "en-US" ++ "' xml:gender='" ++ Gender.female.name ++
      "' name='" ++ Voice.fullName ⟨"en-US", .female, "(en-US, ZiraRUS)"⟩ ++ "'>").toList =
        ("<voice xml:lang='en-US' xml:gender='Female' " ++
          "name='Microsoft Server Speech Text to Speech Voice (en-US, ZiraRUS)'>").toList := by
    decide +kernel
  rw [hopening] at hpieces
  refine ⟨hvoice, hother, hpieces, fun h => ?_⟩
  cases ((hsame false).mp h).1

end Ssml

end CloudSpeech
