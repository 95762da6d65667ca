/-
  Picture formats: which file holds a picture in which way.

  1. **Program** — the ending of a file's name decides on the format.  Most formats keep the four bytes of
     every pixel, some keep its color alone, and others refuse the picture.

  2. **Specification** — no ending belongs to two formats, so an ending means one format or none.

  3. **The crux** — a format without a writer is refused before the file is opened, and every other
     refusal comes from the writer, when the file is open.
-/
namespace LitSpheres

/-- Why a format takes no picture whose pixels may be transparent. -/
inductive FormatProblem where
  /-- Files of the format are read and never written. -/
  | noWriter (format : String)
  /-- The writer is a part of its own that nobody has added. -/
  | writerMissing (format : String)
  /-- Its pixels are not transparent. -/
  | transparency (format : String)
  /-- Its pixels are of other kinds, which its writer says in its own words. -/
  | pixels (said : String)

namespace FormatProblem

def message : FormatProblem → String
  | noWriter format => s!"'{format}'"
  | writerMissing format => s!"{format} save handler not installed"
  | transparency format => s!"cannot write mode RGBA as {format}"
  | pixels said => said

end FormatProblem

/-- A format of picture files. -/
structure PictureFormat where
  name : String
  /-- The endings of its files, in small letters. -/
  endings : List String
  problem? : Option FormatProblem := none
  /-- Whether the file keeps how transparent a pixel is. -/
  keepsAlpha : Bool := true

namespace PictureFormat

/-- A format that is read and never written. -/
def readOnly (name : String) (endings : List String) : PictureFormat :=
  { name, endings, problem? := some (.noWriter name) }

/-- A format whose writer is missing. -/
def unequipped (name : String) (endings : List String) : PictureFormat :=
  { name, endings, problem? := some (.writerMissing name) }

/-- The formats that take a picture. -/
def taking : List PictureFormat :=
  [{ name := "PNG", endings := [".png", ".apng"] },
    { name := "TIFF", endings := [".tif", ".tiff"] },
    { name := "TGA", endings := [".tga", ".icb", ".vda", ".vst"] },
    { name := "SGI", endings := [".sgi", ".rgb", ".rgba", ".bw"] },
    { name := "QOI", endings := [".qoi"] },
    { name := "ICO", endings := [".ico"] },
    { name := "ICNS", endings := [".icns"] },
    { name := "DDS", endings := [".dds"] },
    { name := "IM", endings := [".im"] },
    { name := "GIF", endings := [".gif"] },
    { name := "JPEG2000", endings := [".jp2", ".j2k", ".jpc", ".jpf", ".jpx", ".j2c"] },
    { name := "WEBP", endings := [".webp"] },
    { name := "AVIF", endings := [".avif", ".avifs"] },
    { name := "PDF", endings := [".pdf"] },
    { name := "BMP", endings := [".bmp"], keepsAlpha := false },
    { name := "DIB", endings := [".dib"], keepsAlpha := false },
    { name := "PPM", endings := [".pbm", ".pgm", ".ppm", ".pnm", ".pfm"], keepsAlpha := false }]

/-- The formats that refuse it when the file is open. -/
def refusing : List PictureFormat :=
  [{ name := "JPEG", endings := [".jfif", ".jpe", ".jpg", ".jpeg"], problem? := some (.transparency "JPEG") },
    { name := "MPO", endings := [".mpo"], problem? := some (.transparency "JPEG") },
    { name := "XBM", endings := [".xbm"], problem? := some (.transparency "XBM") },
    { name := "MSP", endings := [".msp"], problem? := some (.transparency "MSP") },
    { name := "PALM", endings := [".palm"], problem? := some (.transparency "Palm") },
    { name := "PCX", endings := [".pcx"], problem? := some (.pixels "Cannot save RGBA images as PCX") },
    { name := "EPS", endings := [".eps", ".ps"], problem? := some (.pixels "image mode is not supported") },
    { name := "BLP", endings := [".blp"], problem? := some (.pixels "Unsupported BLP image mode") },
    unequipped "BUFR" [".bufr"],
    unequipped "GRIB" [".grib"],
    unequipped "HDF5" [".h5", ".hdf"],
    unequipped "WMF" [".wmf", ".emf"]]

/-- The formats that are only read. -/
def unwritten : List PictureFormat :=
  [readOnly "CUR" [".cur"],
    readOnly "DCX" [".dcx"],
    readOnly "FITS" [".fit", ".fits"],
    readOnly "FLI" [".fli", ".flc"],
    readOnly "FTEX" [".ftc", ".ftu"],
    readOnly "GBR" [".gbr"],
    readOnly "IPTC" [".iim"],
    readOnly "MPEG" [".mpg", ".mpeg"],
    readOnly "PCD" [".pcd"],
    readOnly "PIXAR" [".pxr"],
    readOnly "PSD" [".psd"],
    readOnly "SUN" [".ras"],
    readOnly "XPM" [".xpm"]]

/-- All formats. -/
def all : List PictureFormat := taking ++ refusing ++ unwritten

/-- The format of the files with the given ending. -/
def ofEnding? (ending : String) : Option PictureFormat := all.find? (·.endings.contains ending)

/-- What is known before the file is opened: that there is nothing to write it with. -/
def problemBefore? (f : PictureFormat) : Option FormatProblem :=
  match f.problem? with
  | some (.noWriter format) => some (.noWriter format)
  | _ => none

/-- No ending belongs to two formats. -/
theorem nodup_endings : (all.flatMap (·.endings)).Nodup := by decide +kernel

example : ((ofEnding? ".tif").map (·.name)) = some "TIFF" := by decide +kernel
example : (ofEnding? ".gz").isNone := by decide +kernel

end PictureFormat
end LitSpheres
