import PageScript.Console.Picture.NamesFToL
import PageScript.Console.Picture.NamesFromS
import PageScript.Console.Picture.NamesMToR
import PageScript.Console.Picture.NamesUpToE
import PageScript.Text.LowerCase

namespace PageScript.Console.Picture

/-!
# Picture codes

A code is the name of a picture between two colons, without a blank in between.  The
name may be followed by the form in which the picture is shown.  What stands between
colons and is no such name stays as it is.
-/

/-- The names of all pictures, with the pictures. -/
def pictureNames : List (String × String) :=
  picturesUnderSigns ++ picturesUnderA ++ picturesUnderB ++ picturesUnderC ++ picturesUnderDToE ++
    picturesUnderF ++ countryFlags ++ picturesUnderGToH ++ picturesUnderIToK ++ picturesUnderL ++
    picturesUnderM ++ picturesOfMan ++ picturesUnderNToO ++ picturesUnderPToQ ++ picturesOfPerson ++
    picturesUnderR ++ picturesUnderS ++ picturesUnderTToV ++ picturesUnderW ++ picturesOfWoman ++
    picturesFromX

/-- The forms in which a picture is shown, with the character that asks for each. -/
def pictureForms : List (List Char × Char) :=
  [("-emoji".toList, '\uFE0F'), ("-text".toList, '\uFE0E')]

/-- The picture with a name; capital letters do not matter. -/
def picture? (name : List Char) : Option (List Char) :=
  let small := String.ofList (Text.lower name)
  (pictureNames.find? fun entry => entry.1 == small).map fun entry => entry.2.toList

/-- The picture that stands for what is between two colons. -/
def codePicture? (body : List Char) : Option (List Char) :=
  match pictureForms.find? fun form => form.1.isSuffixOf body with
  | some form => (picture? (body.take (body.length - form.1.length))).map (· ++ [form.2])
  | none => picture? body

/-- What stands before the next colon, if no blank comes first. -/
def codeBody? : List Char → Option (List Char)
  | [] => none
  | c :: rest =>
      if c = ':' then some [] else if Text.isBlank c then none else (codeBody? rest).map (c :: ·)

/-- Put pictures for the codes of a text, behind `skip` characters of a code that is done. -/
def withPicturesBehind : Nat → List Char → List Char
  | _, [] => []
  | skip + 1, _ :: rest => withPicturesBehind skip rest
  | 0, c :: rest =>
      match if c = ':' then codeBody? rest else none with
      | some body =>
          (codePicture? body).getD (':' :: body ++ [':']) ++
            withPicturesBehind (body.length + 1) rest
      | none => c :: withPicturesBehind 0 rest

/-- A text with pictures for its codes. -/
def withPictures (s : List Char) : List Char :=
  withPicturesBehind 0 s

end PageScript.Console.Picture
