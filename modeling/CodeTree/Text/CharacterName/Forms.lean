/-! Names of characters: presentation and width forms. -/
namespace CodeTree.Text

/-- Characters from U+FB00 to U+FFFD. -/
def formNames : String :=
"FB00:0LATIN SMALL LIGATURE FF;3FI;3FL;3FFI;3FFL;3LONG S T;3ST
FB13:0ARMENIAN SMALL LIGATURE MEN NOW;4ECH;4INI;3VEW NOW;3MEN XEH
FB1D:0HEBREW LETTER YOD WITH HIRIQ;1POINT JUDEO-SPANISH VARIKA;1LIGATURE YIDDISH YOD YOD PATAH
FB20:0HEBREW LETTER ALTERNATIVE AYIN;2WIDE ALEF;3DALET;3HE;3KAF;3LAMED;3FINAL MEM;3RESH;3TAV
FB29:0HEBREW LETTER ALTERNATIVE PLUS SIGN;2SHIN WITH SHIN DOT;4SIN DOT;4DAGESH AND SHIN DOT
FB2D:0HEBREW LETTER SHIN WITH DAGESH AND SIN DOT;2ALEF WITH PATAH;4QAMATS;4MAPIQ;2BET WITH DAGESH
FB32:0HEBREW LETTER GIMEL WITH DAGESH;2DALET WITH DAGESH;2HE WITH MAPIQ;2VAV WITH DAGESH
FB36:0HEBREW LETTER ZAYIN WITH DAGESH
FB38:0HEBREW LETTER TET WITH DAGESH;2YOD WITH DAGESH;2FINAL KAF WITH DAGESH;2KAF WITH DAGESH
FB3C:0HEBREW LETTER LAMED WITH DAGESH
FB3E:0HEBREW LETTER MEM WITH DAGESH
FB40:0HEBREW LETTER NUN WITH DAGESH;2SAMEKH WITH DAGESH
FB43:0HEBREW LETTER FINAL PE WITH DAGESH;2PE WITH DAGESH
FB46:0HEBREW LETTER TSADI WITH DAGESH;2QOF WITH DAGESH;2RESH WITH DAGESH;2SHIN WITH DAGESH
FB4A:0HEBREW LETTER TAV WITH DAGESH;2VAV WITH HOLAM;2BET WITH RAFE;2KAF WITH RAFE;2PE WITH RAFE
FB4F:0HEBREW LIGATURE ALEF LAMED;0ARABIC LETTER ALEF WASLA ISOLATED FORM;4FINAL FORM
FB52:0ARABIC LETTER BEEH ISOLATED FORM;3FINAL FORM;3INITIAL FORM;3MEDIAL FORM;2PEH ISOLATED FORM
FB57:0ARABIC LETTER PEH FINAL FORM;3INITIAL FORM;3MEDIAL FORM;2BEHEH ISOLATED FORM;3FINAL FORM
FB5C:0ARABIC LETTER BEHEH INITIAL FORM;3MEDIAL FORM;2TTEHEH ISOLATED FORM;3FINAL FORM
FB60:0ARABIC LETTER TTEHEH INITIAL FORM;3MEDIAL FORM;2TEHEH ISOLATED FORM;3FINAL FORM
FB64:0ARABIC LETTER TEHEH INITIAL FORM;3MEDIAL FORM;2TTEH ISOLATED FORM;3FINAL FORM;3INITIAL FORM
FB69:0ARABIC LETTER TTEH MEDIAL FORM;2VEH ISOLATED FORM;3FINAL FORM;3INITIAL FORM;3MEDIAL FORM
FB6E:0ARABIC LETTER PEHEH ISOLATED FORM;3FINAL FORM;3INITIAL FORM;3MEDIAL FORM;2DYEH ISOLATED FORM
FB73:0ARABIC LETTER DYEH FINAL FORM;3INITIAL FORM;3MEDIAL FORM;2NYEH ISOLATED FORM;3FINAL FORM
FB78:0ARABIC LETTER NYEH INITIAL FORM;3MEDIAL FORM;2TCHEH ISOLATED FORM;3FINAL FORM;3INITIAL FORM
FB7D:0ARABIC LETTER TCHEH MEDIAL FORM;2TCHEHEH ISOLATED FORM;3FINAL FORM;3INITIAL FORM
FB81:0ARABIC LETTER TCHEHEH MEDIAL FORM;2DDAHAL ISOLATED FORM;3FINAL FORM;2DAHAL ISOLATED FORM
FB85:0ARABIC LETTER DAHAL FINAL FORM;2DUL ISOLATED FORM;3FINAL FORM;2DDAL ISOLATED FORM
FB89:0ARABIC LETTER DDAL FINAL FORM;2JEH ISOLATED FORM;3FINAL FORM;2RREH ISOLATED FORM;3FINAL FORM
FB8E:0ARABIC LETTER KEHEH ISOLATED FORM;3FINAL FORM;3INITIAL FORM;3MEDIAL FORM;2GAF ISOLATED FORM
FB93:0ARABIC LETTER GAF FINAL FORM;3INITIAL FORM;3MEDIAL FORM;2GUEH ISOLATED FORM;3FINAL FORM
FB98:0ARABIC LETTER GUEH INITIAL FORM;3MEDIAL FORM;2NGOEH ISOLATED FORM;3FINAL FORM;3INITIAL FORM
FB9D:0ARABIC LETTER NGOEH MEDIAL FORM;2NOON GHUNNA ISOLATED FORM;4FINAL FORM;2RNOON ISOLATED FORM
FBA1:0ARABIC LETTER RNOON FINAL FORM;3INITIAL FORM;3MEDIAL FORM;2HEH WITH YEH ABOVE ISOLATED FORM
FBA5:0ARABIC LETTER HEH WITH YEH ABOVE FINAL FORM;3GOAL ISOLATED FORM;4FINAL FORM;4INITIAL FORM
FBA9:0ARABIC LETTER HEH GOAL MEDIAL FORM;3DOACHASHMEE ISOLATED FORM;4FINAL FORM;4INITIAL FORM
FBAD:0ARABIC LETTER HEH DOACHASHMEE MEDIAL FORM;2YEH BARREE ISOLATED FORM;4FINAL FORM
FBB0:0ARABIC LETTER YEH BARREE WITH HAMZA ABOVE ISOLATED FORM;7FINAL FORM;1SYMBOL DOT ABOVE;3BELOW
FBB4:0ARABIC SYMBOL TWO DOTS ABOVE;4BELOW;2THREE DOTS ABOVE;4BELOW;4POINTING DOWNWARDS ABOVE
FBB9:0ARABIC SYMBOL THREE DOTS POINTING DOWNWARDS BELOW;2FOUR DOTS ABOVE;4BELOW
FBBC:0ARABIC SYMBOL DOUBLE VERTICAL BAR BELOW;2TWO DOTS VERTICALLY ABOVE;5BELOW;2RING
FBC0:0ARABIC SYMBOL SMALL TAH ABOVE;4BELOW;2WASLA ABOVE
FBD3:0ARABIC LETTER NG ISOLATED FORM;3FINAL FORM;3INITIAL FORM;3MEDIAL FORM;2U ISOLATED FORM
FBD8:0ARABIC LETTER U FINAL FORM;2OE ISOLATED FORM;3FINAL FORM;2YU ISOLATED FORM;3FINAL FORM
FBDD:0ARABIC LETTER U WITH HAMZA ABOVE ISOLATED FORM;2VE ISOLATED FORM;3FINAL FORM
FBE0:0ARABIC LETTER KIRGHIZ OE ISOLATED FORM;4FINAL FORM;3YU ISOLATED FORM;4FINAL FORM
FBE4:0ARABIC LETTER E ISOLATED FORM;3FINAL FORM;3INITIAL FORM;3MEDIAL FORM
FBE8:0ARABIC LETTER UIGHUR KAZAKH KIRGHIZ ALEF MAKSURA INITIAL FORM;7MEDIAL FORM
FBEA:0ARABIC LIGATURE YEH WITH HAMZA ABOVE WITH ALEF ISOLATED FORM;8FINAL FORM;7AE ISOLATED FORM
FBED:0ARABIC LIGATURE YEH WITH HAMZA ABOVE WITH AE FINAL FORM;7WAW ISOLATED FORM;8FINAL FORM
FBF0:0ARABIC LIGATURE YEH WITH HAMZA ABOVE WITH U ISOLATED FORM;8FINAL FORM;7OE ISOLATED FORM
FBF3:0ARABIC LIGATURE YEH WITH HAMZA ABOVE WITH OE FINAL FORM;7YU ISOLATED FORM;8FINAL FORM
FBF6:0ARABIC LIGATURE YEH WITH HAMZA ABOVE WITH E ISOLATED FORM;8FINAL FORM;8INITIAL FORM
FBF9:0ARABIC LIGATURE UIGHUR KIRGHIZ YEH WITH HAMZA ABOVE WITH ALEF MAKSURA ISOLATED FORM
FBFA:0ARABIC LIGATURE UIGHUR KIRGHIZ YEH WITH HAMZA ABOVE WITH ALEF MAKSURA FINAL FORM
FBFB:0ARABIC LIGATURE UIGHUR KIRGHIZ YEH WITH HAMZA ABOVE WITH ALEF MAKSURA INITIAL FORM
FBFC:0ARABIC LETTER FARSI YEH ISOLATED FORM;4FINAL FORM;4INITIAL FORM;4MEDIAL FORM
FC00:0ARABIC LIGATURE YEH WITH HAMZA ABOVE WITH JEEM ISOLATED FORM;7HAH ISOLATED FORM
FC02:0ARABIC LIGATURE YEH WITH HAMZA ABOVE WITH MEEM ISOLATED FORM;7ALEF MAKSURA ISOLATED FORM
FC04:0ARABIC LIGATURE YEH WITH HAMZA ABOVE WITH YEH ISOLATED FORM;2BEH WITH JEEM ISOLATED FORM
FC06:0ARABIC LIGATURE BEH WITH HAH ISOLATED FORM;4KHAH ISOLATED FORM;4MEEM ISOLATED FORM
FC09:0ARABIC LIGATURE BEH WITH ALEF MAKSURA ISOLATED FORM;4YEH ISOLATED FORM
FC0B:0ARABIC LIGATURE TEH WITH JEEM ISOLATED FORM;4HAH ISOLATED FORM;4KHAH ISOLATED FORM
FC0E:0ARABIC LIGATURE TEH WITH MEEM ISOLATED FORM;4ALEF MAKSURA ISOLATED FORM;4YEH ISOLATED FORM
FC11:0ARABIC LIGATURE THEH WITH JEEM ISOLATED FORM;4MEEM ISOLATED FORM;4ALEF MAKSURA ISOLATED FORM
FC14:0ARABIC LIGATURE THEH WITH YEH ISOLATED FORM;2JEEM WITH HAH ISOLATED FORM;4MEEM ISOLATED FORM
FC17:0ARABIC LIGATURE HAH WITH JEEM ISOLATED FORM;4MEEM ISOLATED FORM
FC19:0ARABIC LIGATURE KHAH WITH JEEM ISOLATED FORM;4HAH ISOLATED FORM;4MEEM ISOLATED FORM
FC1C:0ARABIC LIGATURE SEEN WITH JEEM ISOLATED FORM;4HAH ISOLATED FORM;4KHAH ISOLATED FORM
FC1F:0ARABIC LIGATURE SEEN WITH MEEM ISOLATED FORM;2SAD WITH HAH ISOLATED FORM;4MEEM ISOLATED FORM
FC22:0ARABIC LIGATURE DAD WITH JEEM ISOLATED FORM;4HAH ISOLATED FORM;4KHAH ISOLATED FORM
FC25:0ARABIC LIGATURE DAD WITH MEEM ISOLATED FORM;2TAH WITH HAH ISOLATED FORM;4MEEM ISOLATED FORM
FC28:0ARABIC LIGATURE ZAH WITH MEEM ISOLATED FORM;2AIN WITH JEEM ISOLATED FORM;4MEEM ISOLATED FORM
FC2B:0ARABIC LIGATURE GHAIN WITH JEEM ISOLATED FORM;4MEEM ISOLATED FORM
FC2D:0ARABIC LIGATURE FEH WITH JEEM ISOLATED FORM;4HAH ISOLATED FORM;4KHAH ISOLATED FORM
FC30:0ARABIC LIGATURE FEH WITH MEEM ISOLATED FORM;4ALEF MAKSURA ISOLATED FORM;4YEH ISOLATED FORM
FC33:0ARABIC LIGATURE QAF WITH HAH ISOLATED FORM;4MEEM ISOLATED FORM;4ALEF MAKSURA ISOLATED FORM
FC36:0ARABIC LIGATURE QAF WITH YEH ISOLATED FORM;2KAF WITH ALEF ISOLATED FORM;4JEEM ISOLATED FORM
FC39:0ARABIC LIGATURE KAF WITH HAH ISOLATED FORM;4KHAH ISOLATED FORM;4LAM ISOLATED FORM
FC3C:0ARABIC LIGATURE KAF WITH MEEM ISOLATED FORM;4ALEF MAKSURA ISOLATED FORM;4YEH ISOLATED FORM
FC3F:0ARABIC LIGATURE LAM WITH JEEM ISOLATED FORM;4HAH ISOLATED FORM;4KHAH ISOLATED FORM
FC42:0ARABIC LIGATURE LAM WITH MEEM ISOLATED FORM;4ALEF MAKSURA ISOLATED FORM;4YEH ISOLATED FORM
FC45:0ARABIC LIGATURE MEEM WITH JEEM ISOLATED FORM;4HAH ISOLATED FORM;4KHAH ISOLATED FORM
FC48:0ARABIC LIGATURE MEEM WITH MEEM ISOLATED FORM;4ALEF MAKSURA ISOLATED FORM;4YEH ISOLATED FORM
FC4B:0ARABIC LIGATURE NOON WITH JEEM ISOLATED FORM;4HAH ISOLATED FORM;4KHAH ISOLATED FORM
FC4E:0ARABIC LIGATURE NOON WITH MEEM ISOLATED FORM;4ALEF MAKSURA ISOLATED FORM;4YEH ISOLATED FORM
FC51:0ARABIC LIGATURE HEH WITH JEEM ISOLATED FORM;4MEEM ISOLATED FORM;4ALEF MAKSURA ISOLATED FORM
FC54:0ARABIC LIGATURE HEH WITH YEH ISOLATED FORM;2YEH WITH JEEM ISOLATED FORM;4HAH ISOLATED FORM
FC57:0ARABIC LIGATURE YEH WITH KHAH ISOLATED FORM;4MEEM ISOLATED FORM;4ALEF MAKSURA ISOLATED FORM
FC5A:0ARABIC LIGATURE YEH WITH YEH ISOLATED FORM;2THAL WITH SUPERSCRIPT ALEF ISOLATED FORM
FC5C:0ARABIC LIGATURE REH WITH SUPERSCRIPT ALEF ISOLATED FORM
FC5D:0ARABIC LIGATURE ALEF MAKSURA WITH SUPERSCRIPT ALEF ISOLATED FORM
FC5E:0ARABIC LIGATURE SHADDA WITH DAMMATAN ISOLATED FORM;4KASRATAN ISOLATED FORM
FC60:0ARABIC LIGATURE SHADDA WITH FATHA ISOLATED FORM;4DAMMA ISOLATED FORM;4KASRA ISOLATED FORM
FC63:0ARABIC LIGATURE SHADDA WITH SUPERSCRIPT ALEF ISOLATED FORM
FC64:0ARABIC LIGATURE YEH WITH HAMZA ABOVE WITH REH FINAL FORM;7ZAIN FINAL FORM;7MEEM FINAL FORM
FC67:0ARABIC LIGATURE YEH WITH HAMZA ABOVE WITH NOON FINAL FORM;7ALEF MAKSURA FINAL FORM
FC69:0ARABIC LIGATURE YEH WITH HAMZA ABOVE WITH YEH FINAL FORM;2BEH WITH REH FINAL FORM
FC6B:0ARABIC LIGATURE BEH WITH ZAIN FINAL FORM;4MEEM FINAL FORM;4NOON FINAL FORM
FC6E:0ARABIC LIGATURE BEH WITH ALEF MAKSURA FINAL FORM;4YEH FINAL FORM;2TEH WITH REH FINAL FORM
FC71:0ARABIC LIGATURE TEH WITH ZAIN FINAL FORM;4MEEM FINAL FORM;4NOON FINAL FORM
FC74:0ARABIC LIGATURE TEH WITH ALEF MAKSURA FINAL FORM;4YEH FINAL FORM;2THEH WITH REH FINAL FORM
FC77:0ARABIC LIGATURE THEH WITH ZAIN FINAL FORM;4MEEM FINAL FORM;4NOON FINAL FORM
FC7A:0ARABIC LIGATURE THEH WITH ALEF MAKSURA FINAL FORM;4YEH FINAL FORM
FC7C:0ARABIC LIGATURE FEH WITH ALEF MAKSURA FINAL FORM;4YEH FINAL FORM
FC7E:0ARABIC LIGATURE QAF WITH ALEF MAKSURA FINAL FORM;4YEH FINAL FORM;2KAF WITH ALEF FINAL FORM
FC81:0ARABIC LIGATURE KAF WITH LAM FINAL FORM;4MEEM FINAL FORM;4ALEF MAKSURA FINAL FORM
FC84:0ARABIC LIGATURE KAF WITH YEH FINAL FORM;2LAM WITH MEEM FINAL FORM;4ALEF MAKSURA FINAL FORM
FC87:0ARABIC LIGATURE LAM WITH YEH FINAL FORM;2MEEM WITH ALEF FINAL FORM;4MEEM FINAL FORM
FC8A:0ARABIC LIGATURE NOON WITH REH FINAL FORM;4ZAIN FINAL FORM;4MEEM FINAL FORM;4NOON FINAL FORM
FC8E:0ARABIC LIGATURE NOON WITH ALEF MAKSURA FINAL FORM;4YEH FINAL FORM
FC90:0ARABIC LIGATURE ALEF MAKSURA WITH SUPERSCRIPT ALEF FINAL FORM;2YEH WITH REH FINAL FORM
FC92:0ARABIC LIGATURE YEH WITH ZAIN FINAL FORM;4MEEM FINAL FORM;4NOON FINAL FORM
FC95:0ARABIC LIGATURE YEH WITH ALEF MAKSURA FINAL FORM;4YEH FINAL FORM
FC97:0ARABIC LIGATURE YEH WITH HAMZA ABOVE WITH JEEM INITIAL FORM;7HAH INITIAL FORM
FC99:0ARABIC LIGATURE YEH WITH HAMZA ABOVE WITH KHAH INITIAL FORM;7MEEM INITIAL FORM
FC9B:0ARABIC LIGATURE YEH WITH HAMZA ABOVE WITH HEH INITIAL FORM;2BEH WITH JEEM INITIAL FORM
FC9D:0ARABIC LIGATURE BEH WITH HAH INITIAL FORM;4KHAH INITIAL FORM;4MEEM INITIAL FORM
FCA0:0ARABIC LIGATURE BEH WITH HEH INITIAL FORM;2TEH WITH JEEM INITIAL FORM;4HAH INITIAL FORM
FCA3:0ARABIC LIGATURE TEH WITH KHAH INITIAL FORM;4MEEM INITIAL FORM;4HEH INITIAL FORM
FCA6:0ARABIC LIGATURE THEH WITH MEEM INITIAL FORM;2JEEM WITH HAH INITIAL FORM;4MEEM INITIAL FORM
FCA9:0ARABIC LIGATURE HAH WITH JEEM INITIAL FORM;4MEEM INITIAL FORM;2KHAH WITH JEEM INITIAL FORM
FCAC:0ARABIC LIGATURE KHAH WITH MEEM INITIAL FORM;2SEEN WITH JEEM INITIAL FORM;4HAH INITIAL FORM
FCAF:0ARABIC LIGATURE SEEN WITH KHAH INITIAL FORM;4MEEM INITIAL FORM;2SAD WITH HAH INITIAL FORM
FCB2:0ARABIC LIGATURE SAD WITH KHAH INITIAL FORM;4MEEM INITIAL FORM;2DAD WITH JEEM INITIAL FORM
FCB5:0ARABIC LIGATURE DAD WITH HAH INITIAL FORM;4KHAH INITIAL FORM;4MEEM INITIAL FORM
FCB8:0ARABIC LIGATURE TAH WITH HAH INITIAL FORM;2ZAH WITH MEEM INITIAL FORM
FCBA:0ARABIC LIGATURE AIN WITH JEEM INITIAL FORM;4MEEM INITIAL FORM;2GHAIN WITH JEEM INITIAL FORM
FCBD:0ARABIC LIGATURE GHAIN WITH MEEM INITIAL FORM;2FEH WITH JEEM INITIAL FORM;4HAH INITIAL FORM
FCC0:0ARABIC LIGATURE FEH WITH KHAH INITIAL FORM;4MEEM INITIAL FORM;2QAF WITH HAH INITIAL FORM
FCC3:0ARABIC LIGATURE QAF WITH MEEM INITIAL FORM;2KAF WITH JEEM INITIAL FORM;4HAH INITIAL FORM
FCC6:0ARABIC LIGATURE KAF WITH KHAH INITIAL FORM;4LAM INITIAL FORM;4MEEM INITIAL FORM
FCC9:0ARABIC LIGATURE LAM WITH JEEM INITIAL FORM;4HAH INITIAL FORM;4KHAH INITIAL FORM
FCCC:0ARABIC LIGATURE LAM WITH MEEM INITIAL FORM;4HEH INITIAL FORM;2MEEM WITH JEEM INITIAL FORM
FCCF:0ARABIC LIGATURE MEEM WITH HAH INITIAL FORM;4KHAH INITIAL FORM;4MEEM INITIAL FORM
FCD2:0ARABIC LIGATURE NOON WITH JEEM INITIAL FORM;4HAH INITIAL FORM;4KHAH INITIAL FORM
FCD5:0ARABIC LIGATURE NOON WITH MEEM INITIAL FORM;4HEH INITIAL FORM;2HEH WITH JEEM INITIAL FORM
FCD8:0ARABIC LIGATURE HEH WITH MEEM INITIAL FORM;4SUPERSCRIPT ALEF INITIAL FORM
FCDA:0ARABIC LIGATURE YEH WITH JEEM INITIAL FORM;4HAH INITIAL FORM;4KHAH INITIAL FORM
FCDD:0ARABIC LIGATURE YEH WITH MEEM INITIAL FORM;4HEH INITIAL FORM
FCDF:0ARABIC LIGATURE YEH WITH HAMZA ABOVE WITH MEEM MEDIAL FORM;7HEH MEDIAL FORM
FCE1:0ARABIC LIGATURE BEH WITH MEEM MEDIAL FORM;4HEH MEDIAL FORM;2TEH WITH MEEM MEDIAL FORM
FCE4:0ARABIC LIGATURE TEH WITH HEH MEDIAL FORM;2THEH WITH MEEM MEDIAL FORM;4HEH MEDIAL FORM
FCE7:0ARABIC LIGATURE SEEN WITH MEEM MEDIAL FORM;4HEH MEDIAL FORM;2SHEEN WITH MEEM MEDIAL FORM
FCEA:0ARABIC LIGATURE SHEEN WITH HEH MEDIAL FORM;2KAF WITH LAM MEDIAL FORM;4MEEM MEDIAL FORM
FCED:0ARABIC LIGATURE LAM WITH MEEM MEDIAL FORM;2NOON WITH MEEM MEDIAL FORM;4HEH MEDIAL FORM
FCF0:0ARABIC LIGATURE YEH WITH MEEM MEDIAL FORM;4HEH MEDIAL FORM;2SHADDA WITH FATHA MEDIAL FORM
FCF3:0ARABIC LIGATURE SHADDA WITH DAMMA MEDIAL FORM;4KASRA MEDIAL FORM
FCF5:0ARABIC LIGATURE TAH WITH ALEF MAKSURA ISOLATED FORM;4YEH ISOLATED FORM
FCF7:0ARABIC LIGATURE AIN WITH ALEF MAKSURA ISOLATED FORM;4YEH ISOLATED FORM
FCF9:0ARABIC LIGATURE GHAIN WITH ALEF MAKSURA ISOLATED FORM;4YEH ISOLATED FORM
FCFB:0ARABIC LIGATURE SEEN WITH ALEF MAKSURA ISOLATED FORM;4YEH ISOLATED FORM
FCFD:0ARABIC LIGATURE SHEEN WITH ALEF MAKSURA ISOLATED FORM;4YEH ISOLATED FORM
FCFF:0ARABIC LIGATURE HAH WITH ALEF MAKSURA ISOLATED FORM;4YEH ISOLATED FORM
FD01:0ARABIC LIGATURE JEEM WITH ALEF MAKSURA ISOLATED FORM;4YEH ISOLATED FORM
FD03:0ARABIC LIGATURE KHAH WITH ALEF MAKSURA ISOLATED FORM;4YEH ISOLATED FORM
FD05:0ARABIC LIGATURE SAD WITH ALEF MAKSURA ISOLATED FORM;4YEH ISOLATED FORM
FD07:0ARABIC LIGATURE DAD WITH ALEF MAKSURA ISOLATED FORM;4YEH ISOLATED FORM
FD09:0ARABIC LIGATURE SHEEN WITH JEEM ISOLATED FORM;4HAH ISOLATED FORM;4KHAH ISOLATED FORM
FD0C:0ARABIC LIGATURE SHEEN WITH MEEM ISOLATED FORM;4REH ISOLATED FORM
FD0E:0ARABIC LIGATURE SEEN WITH REH ISOLATED FORM;2SAD WITH REH ISOLATED FORM
FD10:0ARABIC LIGATURE DAD WITH REH ISOLATED FORM;2TAH WITH ALEF MAKSURA FINAL FORM;4YEH FINAL FORM
FD13:0ARABIC LIGATURE AIN WITH ALEF MAKSURA FINAL FORM;4YEH FINAL FORM
FD15:0ARABIC LIGATURE GHAIN WITH ALEF MAKSURA FINAL FORM;4YEH FINAL FORM
FD17:0ARABIC LIGATURE SEEN WITH ALEF MAKSURA FINAL FORM;4YEH FINAL FORM
FD19:0ARABIC LIGATURE SHEEN WITH ALEF MAKSURA FINAL FORM;4YEH FINAL FORM
FD1B:0ARABIC LIGATURE HAH WITH ALEF MAKSURA FINAL FORM;4YEH FINAL FORM
FD1D:0ARABIC LIGATURE JEEM WITH ALEF MAKSURA FINAL FORM;4YEH FINAL FORM
FD1F:0ARABIC LIGATURE KHAH WITH ALEF MAKSURA FINAL FORM;4YEH FINAL FORM
FD21:0ARABIC LIGATURE SAD WITH ALEF MAKSURA FINAL FORM;4YEH FINAL FORM
FD23:0ARABIC LIGATURE DAD WITH ALEF MAKSURA FINAL FORM;4YEH FINAL FORM;2SHEEN WITH JEEM FINAL FORM
FD26:0ARABIC LIGATURE SHEEN WITH HAH FINAL FORM;4KHAH FINAL FORM;4MEEM FINAL FORM;4REH FINAL FORM
FD2A:0ARABIC LIGATURE SEEN WITH REH FINAL FORM;2SAD WITH REH FINAL FORM;2DAD WITH REH FINAL FORM
FD2D:0ARABIC LIGATURE SHEEN WITH JEEM INITIAL FORM;4HAH INITIAL FORM;4KHAH INITIAL FORM
FD30:0ARABIC LIGATURE SHEEN WITH MEEM INITIAL FORM;2SEEN WITH HEH INITIAL FORM
FD32:0ARABIC LIGATURE SHEEN WITH HEH INITIAL FORM;2TAH WITH MEEM INITIAL FORM
FD34:0ARABIC LIGATURE SEEN WITH JEEM MEDIAL FORM;4HAH MEDIAL FORM;4KHAH MEDIAL FORM
FD37:0ARABIC LIGATURE SHEEN WITH JEEM MEDIAL FORM;4HAH MEDIAL FORM;4KHAH MEDIAL FORM
FD3A:0ARABIC LIGATURE TAH WITH MEEM MEDIAL FORM;2ZAH WITH MEEM MEDIAL FORM
FD3C:0ARABIC LIGATURE ALEF WITH FATHATAN FINAL FORM;5ISOLATED FORM;0ORNATE LEFT PARENTHESIS
FD3F:0ORNATE RIGHT PARENTHESIS;0ARABIC LIGATURE RAHIMAHU ALLAAH;2RADI ALLAAHU ANH;4ANHAA;4ANHUM
FD44:0ARABIC LIGATURE RADI ALLAAHU ANHUMAA;4ANHUNNA;2SALLALLAAHU ALAYHI WA-AALIH;2ALAYHI AS-SALAAM
FD48:0ARABIC LIGATURE ALAYHIM AS-SALAAM;2ALAYHIMAA AS-SALAAM;2ALAYHI AS-SALAATU WAS-SALAAM
FD4B:0ARABIC LIGATURE QUDDISA SIRRAH;2SALLALLAHU ALAYHI WAAALIHEE WA-SALLAM;2ALAYHAA AS-SALAAM
FD4E:0ARABIC LIGATURE TABAARAKA WA-TAAALAA;2RAHIMAHUM ALLAAH;2TEH WITH JEEM WITH MEEM INITIAL FORM
FD51:0ARABIC LIGATURE TEH WITH HAH WITH JEEM FINAL FORM;7INITIAL FORM;6MEEM INITIAL FORM
FD54:0ARABIC LIGATURE TEH WITH KHAH WITH MEEM INITIAL FORM;4MEEM WITH JEEM INITIAL FORM
FD56:0ARABIC LIGATURE TEH WITH MEEM WITH HAH INITIAL FORM;6KHAH INITIAL FORM
FD58:0ARABIC LIGATURE JEEM WITH MEEM WITH HAH FINAL FORM;7INITIAL FORM
FD5A:0ARABIC LIGATURE HAH WITH MEEM WITH YEH FINAL FORM;6ALEF MAKSURA FINAL FORM
FD5C:0ARABIC LIGATURE SEEN WITH HAH WITH JEEM INITIAL FORM;4JEEM WITH HAH INITIAL FORM
FD5E:0ARABIC LIGATURE SEEN WITH JEEM WITH ALEF MAKSURA FINAL FORM;4MEEM WITH HAH FINAL FORM
FD60:0ARABIC LIGATURE SEEN WITH MEEM WITH HAH INITIAL FORM;6JEEM INITIAL FORM;6MEEM FINAL FORM
FD63:0ARABIC LIGATURE SEEN WITH MEEM WITH MEEM INITIAL FORM;2SAD WITH HAH WITH HAH FINAL FORM
FD65:0ARABIC LIGATURE SAD WITH HAH WITH HAH INITIAL FORM;4MEEM WITH MEEM FINAL FORM
FD67:0ARABIC LIGATURE SHEEN WITH HAH WITH MEEM FINAL FORM;7INITIAL FORM;4JEEM WITH YEH FINAL FORM
FD6A:0ARABIC LIGATURE SHEEN WITH MEEM WITH KHAH FINAL FORM;7INITIAL FORM;6MEEM FINAL FORM
FD6D:0ARABIC LIGATURE SHEEN WITH MEEM WITH MEEM INITIAL FORM
FD6E:0ARABIC LIGATURE DAD WITH HAH WITH ALEF MAKSURA FINAL FORM;4KHAH WITH MEEM FINAL FORM
FD70:0ARABIC LIGATURE DAD WITH KHAH WITH MEEM INITIAL FORM;2TAH WITH MEEM WITH HAH FINAL FORM
FD72:0ARABIC LIGATURE TAH WITH MEEM WITH HAH INITIAL FORM;6MEEM INITIAL FORM;6YEH FINAL FORM
FD75:0ARABIC LIGATURE AIN WITH JEEM WITH MEEM FINAL FORM;4MEEM WITH MEEM FINAL FORM;7INITIAL FORM
FD78:0ARABIC LIGATURE AIN WITH MEEM WITH ALEF MAKSURA FINAL FORM
FD79:0ARABIC LIGATURE GHAIN WITH MEEM WITH MEEM FINAL FORM;6YEH FINAL FORM
FD7B:0ARABIC LIGATURE GHAIN WITH MEEM WITH ALEF MAKSURA FINAL FORM
FD7C:0ARABIC LIGATURE FEH WITH KHAH WITH MEEM FINAL FORM;7INITIAL FORM
FD7E:0ARABIC LIGATURE QAF WITH MEEM WITH HAH FINAL FORM;6MEEM FINAL FORM
FD80:0ARABIC LIGATURE LAM WITH HAH WITH MEEM FINAL FORM;6YEH FINAL FORM;6ALEF MAKSURA FINAL FORM
FD83:0ARABIC LIGATURE LAM WITH JEEM WITH JEEM INITIAL FORM;7FINAL FORM;4KHAH WITH MEEM FINAL FORM
FD86:0ARABIC LIGATURE LAM WITH KHAH WITH MEEM INITIAL FORM;4MEEM WITH HAH FINAL FORM;7INITIAL FORM
FD89:0ARABIC LIGATURE MEEM WITH HAH WITH JEEM INITIAL FORM;6MEEM INITIAL FORM;6YEH FINAL FORM
FD8C:0ARABIC LIGATURE MEEM WITH JEEM WITH HAH INITIAL FORM;6MEEM INITIAL FORM
FD8E:0ARABIC LIGATURE MEEM WITH KHAH WITH JEEM INITIAL FORM;6MEEM INITIAL FORM
FD92:0ARABIC LIGATURE MEEM WITH JEEM WITH KHAH INITIAL FORM;2HEH WITH MEEM WITH JEEM INITIAL FORM
FD94:0ARABIC LIGATURE HEH WITH MEEM WITH MEEM INITIAL FORM;2NOON WITH HAH WITH MEEM INITIAL FORM
FD96:0ARABIC LIGATURE NOON WITH HAH WITH ALEF MAKSURA FINAL FORM;4JEEM WITH MEEM FINAL FORM
FD98:0ARABIC LIGATURE NOON WITH JEEM WITH MEEM INITIAL FORM;6ALEF MAKSURA FINAL FORM
FD9A:0ARABIC LIGATURE NOON WITH MEEM WITH YEH FINAL FORM;6ALEF MAKSURA FINAL FORM
FD9C:0ARABIC LIGATURE YEH WITH MEEM WITH MEEM FINAL FORM;7INITIAL FORM
FD9E:0ARABIC LIGATURE BEH WITH KHAH WITH YEH FINAL FORM;2TEH WITH JEEM WITH YEH FINAL FORM
FDA0:0ARABIC LIGATURE TEH WITH JEEM WITH ALEF MAKSURA FINAL FORM;4KHAH WITH YEH FINAL FORM
FDA2:0ARABIC LIGATURE TEH WITH KHAH WITH ALEF MAKSURA FINAL FORM;4MEEM WITH YEH FINAL FORM
FDA4:0ARABIC LIGATURE TEH WITH MEEM WITH ALEF MAKSURA FINAL FORM
FDA5:0ARABIC LIGATURE JEEM WITH MEEM WITH YEH FINAL FORM;4HAH WITH ALEF MAKSURA FINAL FORM
FDA7:0ARABIC LIGATURE JEEM WITH MEEM WITH ALEF MAKSURA FINAL FORM
FDA8:0ARABIC LIGATURE SEEN WITH KHAH WITH ALEF MAKSURA FINAL FORM
FDA9:0ARABIC LIGATURE SAD WITH HAH WITH YEH FINAL FORM;2SHEEN WITH HAH WITH YEH FINAL FORM
FDAB:0ARABIC LIGATURE DAD WITH HAH WITH YEH FINAL FORM;2LAM WITH JEEM WITH YEH FINAL FORM
FDAD:0ARABIC LIGATURE LAM WITH MEEM WITH YEH FINAL FORM;2YEH WITH HAH WITH YEH FINAL FORM
FDAF:0ARABIC LIGATURE YEH WITH JEEM WITH YEH FINAL FORM;4MEEM WITH YEH FINAL FORM
FDB1:0ARABIC LIGATURE MEEM WITH MEEM WITH YEH FINAL FORM;2QAF WITH MEEM WITH YEH FINAL FORM
FDB3:0ARABIC LIGATURE NOON WITH HAH WITH YEH FINAL FORM;2QAF WITH MEEM WITH HAH INITIAL FORM
FDB5:0ARABIC LIGATURE LAM WITH HAH WITH MEEM INITIAL FORM;2AIN WITH MEEM WITH YEH FINAL FORM
FDB7:0ARABIC LIGATURE KAF WITH MEEM WITH YEH FINAL FORM;2NOON WITH JEEM WITH HAH INITIAL FORM
FDB9:0ARABIC LIGATURE MEEM WITH KHAH WITH YEH FINAL FORM;2LAM WITH JEEM WITH MEEM INITIAL FORM
FDBB:0ARABIC LIGATURE KAF WITH MEEM WITH MEEM FINAL FORM;2LAM WITH JEEM WITH MEEM FINAL FORM
FDBD:0ARABIC LIGATURE NOON WITH JEEM WITH HAH FINAL FORM;2JEEM WITH HAH WITH YEH FINAL FORM
FDBF:0ARABIC LIGATURE HAH WITH JEEM WITH YEH FINAL FORM;2MEEM WITH JEEM WITH YEH FINAL FORM
FDC1:0ARABIC LIGATURE FEH WITH MEEM WITH YEH FINAL FORM;2BEH WITH HAH WITH YEH FINAL FORM
FDC3:0ARABIC LIGATURE KAF WITH MEEM WITH MEEM INITIAL FORM;2AIN WITH JEEM WITH MEEM INITIAL FORM
FDC5:0ARABIC LIGATURE SAD WITH MEEM WITH MEEM INITIAL FORM;2SEEN WITH KHAH WITH YEH FINAL FORM
FDC7:0ARABIC LIGATURE NOON WITH JEEM WITH YEH FINAL FORM
FDCF:0ARABIC LIGATURE SALAAMUHU ALAYNAA
FDF0:0ARABIC LIGATURE SALLA USED AS KORANIC STOP SIGN ISOLATED FORM
FDF1:0ARABIC LIGATURE QALA USED AS KORANIC STOP SIGN ISOLATED FORM;2ALLAH ISOLATED FORM
FDF3:0ARABIC LIGATURE AKBAR ISOLATED FORM;2MOHAMMAD ISOLATED FORM;2SALAM ISOLATED FORM
FDF6:0ARABIC LIGATURE RASOUL ISOLATED FORM;2ALAYHE ISOLATED FORM;2WASALLAM ISOLATED FORM
FDF9:0ARABIC LIGATURE SALLA ISOLATED FORM;2SALLALLAHOU ALAYHE WASALLAM;2JALLAJALALOUHOU;0RIAL SIGN
FDFD:0ARABIC LIGATURE BISMILLAH AR-RAHMAN AR-RAHEEM;2SUBHAANAHU WA TAAALAA;2AZZA WA JALL
FE00:0VARIATION SELECTOR-1;1SELECTOR-2;1SELECTOR-3;1SELECTOR-4;1SELECTOR-5;1SELECTOR-6;1SELECTOR-7
FE07:0VARIATION SELECTOR-8;1SELECTOR-9;1SELECTOR-10;1SELECTOR-11;1SELECTOR-12;1SELECTOR-13
FE0D:0VARIATION SELECTOR-14;1SELECTOR-15;1SELECTOR-16;0PRESENTATION FORM FOR VERTICAL COMMA
FE11:0PRESENTATION FORM FOR VERTICAL IDEOGRAPHIC COMMA;5FULL STOP;4COLON;4SEMICOLON
FE15:0PRESENTATION FORM FOR VERTICAL EXCLAMATION MARK;4QUESTION MARK
FE17:0PRESENTATION FORM FOR VERTICAL LEFT WHITE LENTICULAR BRACKET;4RIGHT WHITE LENTICULAR BRAKCET
FE19:0PRESENTATION FORM FOR VERTICAL HORIZONTAL ELLIPSIS
FE20:0COMBINING LIGATURE LEFT HALF;2RIGHT HALF;1DOUBLE TILDE LEFT HALF;3RIGHT HALF
FE24:0COMBINING MACRON LEFT HALF;2RIGHT HALF;1CONJOINING MACRON;1LIGATURE LEFT HALF BELOW
FE28:0COMBINING LIGATURE RIGHT HALF BELOW;1TILDE LEFT HALF BELOW;2RIGHT HALF BELOW
FE2B:0COMBINING MACRON LEFT HALF BELOW;2RIGHT HALF BELOW;1CONJOINING MACRON BELOW
FE2E:0COMBINING CYRILLIC TITLO LEFT HALF;3RIGHT HALF
FE30:0PRESENTATION FORM FOR VERTICAL TWO DOT LEADER;4EM DASH;4EN DASH;4LOW LINE;4WAVY LOW LINE
FE35:0PRESENTATION FORM FOR VERTICAL LEFT PARENTHESIS;4RIGHT PARENTHESIS;4LEFT CURLY BRACKET
FE38:0PRESENTATION FORM FOR VERTICAL RIGHT CURLY BRACKET;4LEFT TORTOISE SHELL BRACKET
FE3A:0PRESENTATION FORM FOR VERTICAL RIGHT TORTOISE SHELL BRACKET;4LEFT BLACK LENTICULAR BRACKET
FE3C:0PRESENTATION FORM FOR VERTICAL RIGHT BLACK LENTICULAR BRACKET;4LEFT DOUBLE ANGLE BRACKET
FE3E:0PRESENTATION FORM FOR VERTICAL RIGHT DOUBLE ANGLE BRACKET;4LEFT ANGLE BRACKET
FE40:0PRESENTATION FORM FOR VERTICAL RIGHT ANGLE BRACKET;4LEFT CORNER BRACKET
FE42:0PRESENTATION FORM FOR VERTICAL RIGHT CORNER BRACKET;4LEFT WHITE CORNER BRACKET
FE44:0PRESENTATION FORM FOR VERTICAL RIGHT WHITE CORNER BRACKET;0SESAME DOT;0WHITE SESAME DOT
FE47:0PRESENTATION FORM FOR VERTICAL LEFT SQUARE BRACKET;4RIGHT SQUARE BRACKET;0DASHED OVERLINE
FE4A:0CENTRELINE OVERLINE;0WAVY OVERLINE;0DOUBLE WAVY OVERLINE;0DASHED LOW LINE
FE4E:0CENTRELINE LOW LINE;0WAVY LOW LINE;0SMALL COMMA;1IDEOGRAPHIC COMMA;1FULL STOP
FE54:0SMALL SEMICOLON;1COLON;1QUESTION MARK;1EXCLAMATION MARK;1EM DASH;1LEFT PARENTHESIS
FE5A:0SMALL RIGHT PARENTHESIS;1LEFT CURLY BRACKET;1RIGHT CURLY BRACKET
FE5D:0SMALL LEFT TORTOISE SHELL BRACKET;1RIGHT TORTOISE SHELL BRACKET;1NUMBER SIGN;1AMPERSAND
FE61:0SMALL ASTERISK;1PLUS SIGN;1HYPHEN-MINUS;1LESS-THAN SIGN;1GREATER-THAN SIGN;1EQUALS SIGN
FE68:0SMALL REVERSE SOLIDUS;1DOLLAR SIGN;1PERCENT SIGN;1COMMERCIAL AT
FE70:0ARABIC FATHATAN ISOLATED FORM;1TATWEEL WITH FATHATAN ABOVE;1DAMMATAN ISOLATED FORM
FE73:0ARABIC TAIL FRAGMENT;1KASRATAN ISOLATED FORM
FE76:0ARABIC FATHA ISOLATED FORM;2MEDIAL FORM;1DAMMA ISOLATED FORM;2MEDIAL FORM
FE7A:0ARABIC KASRA ISOLATED FORM;2MEDIAL FORM;1SHADDA ISOLATED FORM;2MEDIAL FORM
FE7E:0ARABIC SUKUN ISOLATED FORM;2MEDIAL FORM;1LETTER HAMZA ISOLATED FORM
FE81:0ARABIC LETTER ALEF WITH MADDA ABOVE ISOLATED FORM;6FINAL FORM;4HAMZA ABOVE ISOLATED FORM
FE84:0ARABIC LETTER ALEF WITH HAMZA ABOVE FINAL FORM;2WAW WITH HAMZA ABOVE ISOLATED FORM
FE86:0ARABIC LETTER WAW WITH HAMZA ABOVE FINAL FORM;2ALEF WITH HAMZA BELOW ISOLATED FORM
FE88:0ARABIC LETTER ALEF WITH HAMZA BELOW FINAL FORM;2YEH WITH HAMZA ABOVE ISOLATED FORM
FE8A:0ARABIC LETTER YEH WITH HAMZA ABOVE FINAL FORM;6INITIAL FORM;6MEDIAL FORM;2ALEF ISOLATED FORM
FE8E:0ARABIC LETTER ALEF FINAL FORM;2BEH ISOLATED FORM;3FINAL FORM;3INITIAL FORM;3MEDIAL FORM
FE93:0ARABIC LETTER TEH MARBUTA ISOLATED FORM;4FINAL FORM;3ISOLATED FORM;3FINAL FORM;3INITIAL FORM
FE98:0ARABIC LETTER TEH MEDIAL FORM;2THEH ISOLATED FORM;3FINAL FORM;3INITIAL FORM;3MEDIAL FORM
FE9D:0ARABIC LETTER JEEM ISOLATED FORM;3FINAL FORM;3INITIAL FORM;3MEDIAL FORM;2HAH ISOLATED FORM
FEA2:0ARABIC LETTER HAH FINAL FORM;3INITIAL FORM;3MEDIAL FORM;2KHAH ISOLATED FORM;3FINAL FORM
FEA7:0ARABIC LETTER KHAH INITIAL FORM;3MEDIAL FORM;2DAL ISOLATED FORM;3FINAL FORM
FEAB:0ARABIC LETTER THAL ISOLATED FORM;3FINAL FORM;2REH ISOLATED FORM;3FINAL FORM
FEAF:0ARABIC LETTER ZAIN ISOLATED FORM;3FINAL FORM;2SEEN ISOLATED FORM;3FINAL FORM;3INITIAL FORM
FEB4:0ARABIC LETTER SEEN MEDIAL FORM;2SHEEN ISOLATED FORM;3FINAL FORM;3INITIAL FORM;3MEDIAL FORM
FEB9:0ARABIC LETTER SAD ISOLATED FORM;3FINAL FORM;3INITIAL FORM;3MEDIAL FORM;2DAD ISOLATED FORM
FEBE:0ARABIC LETTER DAD FINAL FORM;3INITIAL FORM;3MEDIAL FORM;2TAH ISOLATED FORM;3FINAL FORM
FEC3:0ARABIC LETTER TAH INITIAL FORM;3MEDIAL FORM;2ZAH ISOLATED FORM;3FINAL FORM;3INITIAL FORM
FEC8:0ARABIC LETTER ZAH MEDIAL FORM;2AIN ISOLATED FORM;3FINAL FORM;3INITIAL FORM;3MEDIAL FORM
FECD:0ARABIC LETTER GHAIN ISOLATED FORM;3FINAL FORM;3INITIAL FORM;3MEDIAL FORM;2FEH ISOLATED FORM
FED2:0ARABIC LETTER FEH FINAL FORM;3INITIAL FORM;3MEDIAL FORM;2QAF ISOLATED FORM;3FINAL FORM
FED7:0ARABIC LETTER QAF INITIAL FORM;3MEDIAL FORM;2KAF ISOLATED FORM;3FINAL FORM;3INITIAL FORM
FEDC:0ARABIC LETTER KAF MEDIAL FORM;2LAM ISOLATED FORM;3FINAL FORM;3INITIAL FORM;3MEDIAL FORM
FEE1:0ARABIC LETTER MEEM ISOLATED FORM;3FINAL FORM;3INITIAL FORM;3MEDIAL FORM;2NOON ISOLATED FORM
FEE6:0ARABIC LETTER NOON FINAL FORM;3INITIAL FORM;3MEDIAL FORM;2HEH ISOLATED FORM;3FINAL FORM
FEEB:0ARABIC LETTER HEH INITIAL FORM;3MEDIAL FORM;2WAW ISOLATED FORM;3FINAL FORM
FEEF:0ARABIC LETTER ALEF MAKSURA ISOLATED FORM;4FINAL FORM;2YEH ISOLATED FORM;3FINAL FORM
FEF3:0ARABIC LETTER YEH INITIAL FORM;3MEDIAL FORM
FEF5:0ARABIC LIGATURE LAM WITH ALEF WITH MADDA ABOVE ISOLATED FORM;8FINAL FORM
FEF7:0ARABIC LIGATURE LAM WITH ALEF WITH HAMZA ABOVE ISOLATED FORM;8FINAL FORM
FEF9:0ARABIC LIGATURE LAM WITH ALEF WITH HAMZA BELOW ISOLATED FORM;8FINAL FORM;5ISOLATED FORM
FEFC:0ARABIC LIGATURE LAM WITH ALEF FINAL FORM
FEFF:0ZERO WIDTH NO-BREAK SPACE
FF01:0FULLWIDTH EXCLAMATION MARK;1QUOTATION MARK;1NUMBER SIGN;1DOLLAR SIGN;1PERCENT SIGN
FF06:0FULLWIDTH AMPERSAND;1APOSTROPHE;1LEFT PARENTHESIS;1RIGHT PARENTHESIS;1ASTERISK;1PLUS SIGN
FF0C:0FULLWIDTH COMMA;1HYPHEN-MINUS;1FULL STOP;1SOLIDUS;1DIGIT ZERO;2ONE;2TWO;2THREE;2FOUR;2FIVE
FF16:0FULLWIDTH DIGIT SIX;2SEVEN;2EIGHT;2NINE;1COLON;1SEMICOLON;1LESS-THAN SIGN;1EQUALS SIGN
FF1E:0FULLWIDTH GREATER-THAN SIGN;1QUESTION MARK;1COMMERCIAL AT;1LATIN CAPITAL LETTER A;4B;4C;4D
FF25:0FULLWIDTH LATIN CAPITAL LETTER E;4F;4G;4H;4I;4J;4K;4L;4M;4N;4O;4P;4Q;4R;4S;4T;4U;4V;4W;4X;4Y
FF3A:0FULLWIDTH LATIN CAPITAL LETTER Z;1LEFT SQUARE BRACKET;1REVERSE SOLIDUS;1RIGHT SQUARE BRACKET
FF3E:0FULLWIDTH CIRCUMFLEX ACCENT;1LOW LINE;1GRAVE ACCENT;1LATIN SMALL LETTER A;4B;4C;4D;4E;4F;4G
FF48:0FULLWIDTH LATIN SMALL LETTER H;4I;4J;4K;4L;4M;4N;4O;4P;4Q;4R;4S;4T;4U;4V;4W;4X;4Y;4Z
FF5B:0FULLWIDTH LEFT CURLY BRACKET;1VERTICAL LINE;1RIGHT CURLY BRACKET;1TILDE
FF5F:0FULLWIDTH LEFT WHITE PARENTHESIS;1RIGHT WHITE PARENTHESIS;0HALFWIDTH IDEOGRAPHIC FULL STOP
FF62:0HALFWIDTH LEFT CORNER BRACKET;1RIGHT CORNER BRACKET;1IDEOGRAPHIC COMMA;1KATAKANA MIDDLE DOT
FF66:0HALFWIDTH KATAKANA LETTER WO;3SMALL A;4I;4U;4E;4O;4YA;4YU;4YO;4TU
FF70:0HALFWIDTH KATAKANA-HIRAGANA PROLONGED SOUND MARK;1KATAKANA LETTER A;3I;3U;3E;3O;3KA;3KI;3KU
FF79:0HALFWIDTH KATAKANA LETTER KE;3KO;3SA;3SI;3SU;3SE;3SO;3TA;3TI;3TU;3TE;3TO;3NA;3NI;3NU;3NE;3NO
FF8A:0HALFWIDTH KATAKANA LETTER HA;3HI;3HU;3HE;3HO;3MA;3MI;3MU;3ME;3MO;3YA;3YU;3YO;3RA;3RI;3RU;3RE
FF9B:0HALFWIDTH KATAKANA LETTER RO;3WA;3N;2VOICED SOUND MARK;2SEMI-VOICED SOUND MARK
FFA0:0HALFWIDTH HANGUL FILLER;2LETTER KIYEOK;3SSANGKIYEOK;3KIYEOK-SIOS;3NIEUN;3NIEUN-CIEUC
FFA6:0HALFWIDTH HANGUL LETTER NIEUN-HIEUH;3TIKEUT;3SSANGTIKEUT;3RIEUL;3RIEUL-KIYEOK;3RIEUL-MIEUM
FFAC:0HALFWIDTH HANGUL LETTER RIEUL-PIEUP;3RIEUL-SIOS;3RIEUL-THIEUTH;3RIEUL-PHIEUPH;3RIEUL-HIEUH
FFB1:0HALFWIDTH HANGUL LETTER MIEUM;3PIEUP;3SSANGPIEUP;3PIEUP-SIOS;3SIOS;3SSANGSIOS;3IEUNG;3CIEUC
FFB9:0HALFWIDTH HANGUL LETTER SSANGCIEUC;3CHIEUCH;3KHIEUKH;3THIEUTH;3PHIEUPH;3HIEUH
FFC2:0HALFWIDTH HANGUL LETTER A;3AE;3YA;3YAE;3EO;3E
FFCA:0HALFWIDTH HANGUL LETTER YEO;3YE;3O;3WA;3WAE;3OE
FFD2:0HALFWIDTH HANGUL LETTER YO;3U;3WEO;3WE;3WI;3YU
FFDA:0HALFWIDTH HANGUL LETTER EU;3YI;3I
FFE0:0FULLWIDTH CENT SIGN;1POUND SIGN;1NOT SIGN;1MACRON;1BROKEN BAR;1YEN SIGN;1WON SIGN
FFE8:0HALFWIDTH FORMS LIGHT VERTICAL;1LEFTWARDS ARROW;1UPWARDS ARROW;1RIGHTWARDS ARROW
FFEC:0HALFWIDTH DOWNWARDS ARROW;1BLACK SQUARE;1WHITE CIRCLE
FFF9:0INTERLINEAR ANNOTATION ANCHOR;2SEPARATOR;2TERMINATOR;0OBJECT REPLACEMENT CHARACTER
FFFD:0REPLACEMENT CHARACTER"

end CodeTree.Text
