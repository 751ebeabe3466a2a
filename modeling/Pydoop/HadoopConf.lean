import Pydoop.Lib.PyDict
import Pydoop.Lib.Text

/-! `pydoop.hadoop_utils.parse_hadoop_conf_file`: the `<property>` elements of a Hadoop
configuration file, read through `xml.dom.minidom`, into a dictionary from names to values.
The dictionary `nv` that collects a property's `<name>` and `<value>` is made once, before the
loop over the properties, and a child element is read only when it has children: a property
without a `<value>` element, or with an empty `<value/>`, is reported with the value of the
property before it, and likewise for `<name>`. -/

namespace Pydoop.HadoopConf

open PyText

/-- A node of a `minidom` document: an element with its tag name and child nodes, a text node
with its data, or another node (a comment, a CDATA section, a processing instruction) by its
node name. -/
inductive Node
  | element (tagName : String) (childNodes : List Node)
  | text (data : String)
  | other (nodeName : String)
  deriving Repr

namespace Node

/-- `node.nodeName`. -/
def nodeName : Node → String
  | .element tagName _ => tagName
  | .text _ => "#text"
  | .other nodeName => nodeName

/-- `node.childNodes`: only elements have children. -/
def childNodes : Node → List Node
  | .element _ children => children
  | _ => []

/-- `c.data` of a node whose `nodeType` is `TEXT_NODE`. -/
def textData? : Node → Option String
  | .text data => some data
  | _ => none

end Node

/-- `HadoopXMLError(message)`. -/
structure HadoopXMLError where
  message : String
  deriving Repr

/-- `extract_text(node)`: the stripped data of its text children, concatenated. -/
def extractText (node : Node) : String :=
  String.join (node.childNodes.filterMap fun c => c.textData?.map strip)

/-- One pass of `for n in p.childNodes`: a child with children of its own sets `nv` at its
node name. -/
def readChild (nv : PyDict String String) (n : Node) : PyDict String String :=
  if n.childNodes ≠ [] then nv.insert n.nodeName (extractText n) else nv

/-- One pass of `for p in props`, with `nv` as the earlier properties left it: the pair
`(nv["name"], nv["value"])` is appended to `items` unless one of them raises `KeyError`. -/
def readProperty (state : PyDict String String × List (String × String)) (p : Node) :
    PyDict String String × List (String × String) :=
  let nv := p.childNodes.foldl readChild state.1
  match nv.get? "name", nv.get? "value" with
  | some name, some value => (nv, state.2 ++ [(name, value)])
  | _, _ => (nv, state.2)

/-- `parse_hadoop_conf_file(fn)`, the file parsed by `dom.parse` into its document element, or
the message of the `ExpatError` it raised. -/
def parseHadoopConfFile (doc : Except String Node) :
    Except HadoopXMLError (PyDict String String) := do
  let conf ← match doc with
    | .ok conf => pure conf
    | .error e => throw ⟨s!"not a valid XML file ({e})"⟩
  if conf.nodeName ≠ "configuration" then throw ⟨"not a valid Hadoop configuration file"⟩
  let props := conf.childNodes.filter (·.nodeName = "property")
  return PyDict.ofPairs (props.foldl readProperty (PyDict.empty, [])).2

theorem foldl_readChild_get? {k : String} {rest : List Node}
    (untouched : ∀ n ∈ rest, n.childNodes ≠ [] → n.nodeName ≠ k) (nv : PyDict String String) :
    (rest.foldl readChild nv).get? k = nv.get? k := by
  induction rest generalizing nv with
  | nil => rfl
  | cons n rest ih =>
    rw [List.foldl_cons, ih fun m member => untouched m (List.mem_cons_of_mem n member)]
    unfold readChild
    split
    · rename_i children
      rw [PyDict.get?_insert, if_neg (Ne.symm (untouched n List.mem_cons_self children))]
    · rfl

@[simp] theorem extractText_text (tagName data : String) :
    extractText (.element tagName [.text data]) = strip data := by
  simp [extractText, Node.childNodes, Node.textData?]

theorem readProperty_reports {nv : PyDict String String} {items : List (String × String)}
    {tagName : String} {children : List Node} {name value : String}
    (named : (children.foldl readChild nv).get? "name" = some name)
    (valued : (children.foldl readChild nv).get? "value" = some value) :
    readProperty (nv, items) (.element tagName children) =
      (children.foldl readChild nv, items ++ [(name, value)]) := by
  simp [readProperty, Node.childNodes, named, valued]

theorem parseHadoopConfFile_configuration (children : List Node) :
    parseHadoopConfFile (.ok (.element "configuration" children)) =
      .ok (PyDict.ofPairs ((children.filter (·.nodeName = "property")).foldl readProperty
        (PyDict.empty, [])).2) := by
  simp [parseHadoopConfFile, Node.nodeName, Node.childNodes]
  rfl

/-- A property whose `<value>` is missing or empty gets the value of the property before it:
the second property, named `b`, is reported with the first property's value. -/
theorem parse_hadoop_conf_file_inherits_value (a v b : String) {rest : List Node}
    (noValue : ∀ n ∈ rest, n.childNodes ≠ [] → n.nodeName ≠ "name" ∧ n.nodeName ≠ "value") :
    (parseHadoopConfFile (.ok (.element "configuration"
        [.element "property" [.element "name" [.text a], .element "value" [.text v]],
          .element "property" (.element "name" [.text b] :: rest)]))).map (·.get? (strip b)) =
      .ok (some (strip v)) := by
  have firstName : ([Node.element "name" [.text a], .element "value" [.text v]].foldl readChild
      .empty).get? "name" = some (strip a) := by
    simp [readChild, Node.childNodes, Node.nodeName]
  have firstValue : ([Node.element "name" [.text a], .element "value" [.text v]].foldl readChild
      .empty).get? "value" = some (strip v) := by
    simp [readChild, Node.childNodes, Node.nodeName]
  have secondName : ∀ nv, ((Node.element "name" [.text b] :: rest).foldl readChild nv).get? "name" =
      some (strip b) := by
    intro nv
    rw [List.foldl_cons, foldl_readChild_get? fun n member children => (noValue n member children).1]
    simp [readChild, Node.childNodes, Node.nodeName]
  have secondValue : ∀ nv, ((Node.element "name" [.text b] :: rest).foldl readChild nv).get? "value" =
      nv.get? "value" := by
    intro nv
    rw [List.foldl_cons, foldl_readChild_get? fun n member children => (noValue n member children).2]
    simp [readChild, Node.childNodes, Node.nodeName]
  rw [parseHadoopConfFile_configuration]
  simp only [Node.nodeName, List.filter_cons_of_pos, decide_true, List.filter_nil, List.foldl_cons,
    List.foldl_nil]
  rw [readProperty_reports firstName firstValue,
    readProperty_reports (secondName _) ((secondValue _).trans firstValue)]
  simp only [List.nil_append, Except.map]
  rw [PyDict.get?_ofPairs_concat]

theorem parse_hadoop_conf_file_inherits_value_empty :
    (∀ n ∈ [Node.element "value" []], n.childNodes ≠ [] →
        n.nodeName ≠ "name" ∧ n.nodeName ≠ "value") ∧
      (parseHadoopConfFile (.ok (.element "configuration"
        [.element "property" [.element "name" [.text "a"], .element "value" [.text "1"]],
          .element "property" [.element "name" [.text "b"], .element "value" []]]))).map
          (·.get? (strip "b")) = .ok (some (strip "1")) :=
  have empty : ∀ n ∈ [Node.element "value" []], n.childNodes ≠ [] →
      n.nodeName ≠ "name" ∧ n.nodeName ≠ "value" := by
    simp [Node.childNodes]
  ⟨empty, parse_hadoop_conf_file_inherits_value "a" "1" "b" empty⟩

end Pydoop.HadoopConf
