import HtmlMarkdown.Markup.Html.Document
import HtmlMarkdown.Markup.Html.Token

namespace HtmlMarkdown.Html

def specialTags : List String :=
  ["address", "applet", "area", "article", "aside", "base", "basefont", "bgsound", "blockquote",
    "body", "br", "button", "caption", "center", "col", "colgroup", "dd", "details", "dir", "div",
    "dl", "dt", "embed", "fieldset", "figcaption", "figure", "footer", "form", "frame",
    "frameset", "h1", "h2", "h3", "h4", "h5", "h6", "head", "header", "hgroup", "hr", "html",
    "iframe", "img", "input", "isindex", "li", "link", "listing", "main", "marquee", "menu",
    "meta", "nav", "noembed", "noframes", "noscript", "object", "ol", "p", "param", "plaintext",
    "pre", "script", "section", "select", "source", "style", "summary", "table", "tbody", "td",
    "template", "textarea", "tfoot", "th", "thead", "title", "tr", "track", "ul", "wbr", "xmp"]

def isMathText (sp : Space) (name : String) : Bool :=
  sp == .mathml && ["mi", "mo", "mn", "ms", "mtext"].contains name

def isSvgHtml (sp : Space) (name : String) : Bool :=
  sp == .svg && ["foreignobject", "desc", "title"].contains name

/-- Whether an element is special; only HTML elements are, not the MathML and SVG ones. -/
def isSpecial (sp : Space) (name : String) : Bool := sp == .html && specialTags.contains name

def bindsScope (sp : Space) (name : String) : Bool :=
  (sp == .html &&
    ["applet", "caption", "html", "table", "td", "th", "marquee", "object", "template"].contains name) ||
  isMathText sp name || isSvgHtml sp name

inductive Scope where
  | default
  | listItem
  | button
  | table
  | select

def Scope.bounds : Scope → Space → String → Bool
  | .default, sp, n => bindsScope sp n
  | .listItem, sp, n => bindsScope sp n || (sp == .html && (n == "ol" || n == "ul"))
  | .button, sp, n => bindsScope sp n || (sp == .html && n == "button")
  | .table, sp, n => sp == .html && (n == "html" || n == "table" || n == "template")
  | .select, sp, n => !(sp == .html && (n == "optgroup" || n == "option"))

def impliedEndTags : List String := ["dd", "dt", "li", "option", "optgroup", "p", "rb", "rp", "rt", "rtc"]

def allImpliedEndTags : List String :=
  impliedEndTags ++ ["caption", "colgroup", "tbody", "td", "tfoot", "th", "thead", "tr"]

def headingTags : List String := ["h1", "h2", "h3", "h4", "h5", "h6"]

def formattingTags : List String :=
  ["b", "big", "code", "em", "font", "i", "s", "small", "strike", "strong", "tt", "u"]

def svgAttributeNames : List String :=
  ["attributeName", "attributeType", "baseFrequency", "baseProfile", "calcMode",
    "clipPathUnits", "diffuseConstant", "edgeMode", "filterUnits", "glyphRef",
    "gradientTransform", "gradientUnits", "kernelMatrix", "kernelUnitLength", "keyPoints",
    "keySplines", "keyTimes", "lengthAdjust", "limitingConeAngle", "markerHeight", "markerUnits",
    "markerWidth", "maskContentUnits", "maskUnits", "numOctaves", "pathLength",
    "patternContentUnits", "patternTransform", "patternUnits", "pointsAtX", "pointsAtY",
    "pointsAtZ", "preserveAlpha", "preserveAspectRatio", "primitiveUnits", "refX", "refY",
    "repeatCount", "repeatDur", "requiredExtensions", "requiredFeatures", "specularConstant",
    "specularExponent", "spreadMethod", "startOffset", "stdDeviation", "stitchTiles",
    "surfaceScale", "systemLanguage", "tableValues", "targetX", "targetY", "textLength",
    "viewBox", "viewTarget", "xChannelSelector", "yChannelSelector", "zoomAndPan"]

def svgAttributeName (name : String) : String :=
  (svgAttributeNames.find? fun n => lowerAsciiName n == name).getD name
where
  lowerAsciiName (n : String) : String := String.ofList (n.toList.map Char.toLower)

def foreignAttributeName (name : String) : String :=
  if ["xlink:actuate", "xlink:arcrole", "xlink:href", "xlink:role", "xlink:show", "xlink:title",
      "xlink:type", "xml:lang", "xml:space", "xmlns:xlink"].contains name then
    String.ofList ((name.toList.dropWhile (· != ':')).drop 1)
  else name

def foreignAttributes (sp : Space) (attrs : List (String × String)) : List (String × String) :=
  attrs.map fun (k, v) =>
    let k := match sp with
      | .svg => svgAttributeName k
      | .mathml => if k == "definitionurl" then "definitionURL" else k
      | .html => k
    (foreignAttributeName k, v)

def quirkyPublicIds : List String := ["-//w3o//dtd w3 html strict 3.0//en//", "-/w3c/dtd html 4.0 transitional/en", "html"]

def quirkyPublicPrefixes : List String :=
  ["-//as//dtd html 3.0 aswedit + extensions//",
    "-//advasoft ltd//dtd html 3.0 aswedit + extensions//", "-//ietf//dtd html 2.0 level 1//",
    "-//ietf//dtd html 2.0 level 2//", "-//ietf//dtd html 2.0 strict level 1//",
    "-//ietf//dtd html 2.0 strict level 2//", "-//ietf//dtd html 2.0 strict//",
    "-//ietf//dtd html 2.0//", "-//ietf//dtd html 2.1e//", "-//ietf//dtd html 3.0//",
    "-//ietf//dtd html 3.2 final//", "-//ietf//dtd html 3.2//", "-//ietf//dtd html 3//",
    "-//ietf//dtd html level 0//", "-//ietf//dtd html level 1//", "-//ietf//dtd html level 2//",
    "-//ietf//dtd html level 3//", "-//ietf//dtd html strict level 0//",
    "-//ietf//dtd html strict level 1//", "-//ietf//dtd html strict level 2//",
    "-//ietf//dtd html strict level 3//", "-//ietf//dtd html strict//", "-//ietf//dtd html//",
    "-//metrius//dtd metrius presentational//",
    "-//microsoft//dtd internet explorer 2.0 html strict//",
    "-//microsoft//dtd internet explorer 2.0 html//",
    "-//microsoft//dtd internet explorer 2.0 tables//",
    "-//microsoft//dtd internet explorer 3.0 html strict//",
    "-//microsoft//dtd internet explorer 3.0 html//",
    "-//microsoft//dtd internet explorer 3.0 tables//", "-//netscape comm. corp.//dtd html//",
    "-//netscape comm. corp.//dtd strict html//", "-//o\x27reilly and associates//dtd html 2.0//",
    "-//o\x27reilly and associates//dtd html extended 1.0//",
    "-//o\x27reilly and associates//dtd html extended relaxed 1.0//",
    "-//sq//dtd html 2.0 hotmetal + extensions//",
    "-//softquad software//dtd hotmetal pro 6.0::19990601::extensions to html 4.0//",
    "-//softquad//dtd hotmetal pro 4.0::19971010::extensions to html 4.0//",
    "-//spyglass//dtd html 2.0 extended//", "-//sun microsystems corp.//dtd hotjava html//",
    "-//sun microsystems corp.//dtd hotjava strict html//", "-//w3c//dtd html 3 1995-03-24//",
    "-//w3c//dtd html 3.2 draft//", "-//w3c//dtd html 3.2 final//", "-//w3c//dtd html 3.2//",
    "-//w3c//dtd html 3.2s draft//", "-//w3c//dtd html 4.0 frameset//",
    "-//w3c//dtd html 4.0 transitional//", "-//w3c//dtd html experimental 19960712//",
    "-//w3c//dtd html experimental 970421//", "-//w3c//dtd w3 html//", "-//w3o//dtd w3 html 3.0//",
    "-//webtechs//dtd mozilla html 2.0//", "-//webtechs//dtd mozilla html//"]

/-- Whether a doctype puts the document in quirks mode, where a table keeps an open paragraph. -/
def Doctype.isQuirky (d : Doctype) : Bool :=
  let lower (s : Option String) := s.map fun s => String.ofList (s.toList.map Char.toLower)
  let pub := lower d.publicId
  let sys := lower d.systemId
  let startsWith (p : String) (s : String) := s.toList.take p.length == p.toList
  d.forceQuirks || d.name != some "html" ||
  (match pub with
    | some p => quirkyPublicIds.contains p || quirkyPublicPrefixes.any (startsWith · p)
    | none => false) ||
  sys == some "http://www.ibm.com/data/dtd/v11/ibmxhtml1-transitional.dtd" ||
  (match pub, sys with
    | some p, none =>
      startsWith "-//w3c//dtd html 4.01 frameset//" p || startsWith "-//w3c//dtd html 4.01 transitional//" p
    | _, _ => false)

end HtmlMarkdown.Html
