import FauxmoLinux.Base.Format

/-!
`templates.h`: the format strings of the responses, under the source's names.
-/

namespace FauxmoLinux

def FAUXMO_TCP_HEADERS : List Piece :=
  [.lit (bytes "HTTP/1.1 "), .str,
   .lit (bytes "\r\nContent-Type: "), .str,
   .lit (bytes "\r\nContent-Length: "), .dec,
   .lit (bytes "\r\nConnection: close\r\n\r\n")]

def FAUXMO_TCP_STATE_RESPONSE : List Piece :=
  [.lit (bytes "[\x7b\"success\":\x7b\"/lights/"), .dec,
   .lit (bytes "/state/on\":"), .str, .lit (bytes "\x7d\x7d]")]

def FAUXMO_DEVICE_JSON_TEMPLATE : List Piece :=
  [.lit (bytes "\x7b\"type\": \"Extended color light\",\"name\": \""), .str,
   .lit (bytes "\",\"uniqueid\": \""), .str,
   .lit (bytes ("\",\"modelid\": \"LCT015\",\"manufacturername\": \"Philips\"," ++
     "\"productname\": \"E4\",\"state\":\x7b\"on\": ")), .str,
   .lit (bytes ",\"bri\": "), .dec,
   .lit (bytes (",\"xy\": [0,0],\"hue\": 0,\"sat\": 0,\"effect\": \"none\"," ++
     "\"colormode\": \"xy\",\"ct\": 500,\"mode\": \"homeautomation\",\"reachable\": true\x7d," ++
     "\"capabilities\": \x7b\"certified\": false," ++
     "\"streaming\": \x7b\"renderer\":true,\"proxy\":false\x7d\x7d," ++
     "\"swversion\": \"5.105.0.21169\"\x7d"))]

def FAUXMO_DEVICE_JSON_TEMPLATE_SHORT : List Piece :=
  [.lit (bytes "\x7b\"type\": \"Extended color light\",\"name\": \""), .str,
   .lit (bytes "\",\"uniqueid\": \""), .str, .lit (bytes "\"\x7d")]

def FAUXMO_DESCRIPTION_TEMPLATE : List Piece :=
  [.lit (bytes ("<?xml version=\"1.0\" ?><root xmlns=\"urn:schemas-upnp-org:device-1-0\">" ++
     "<specVersion><major>1</major><minor>0</minor></specVersion><URLBase>http://")), .dec,
   .lit (bytes "."), .dec, .lit (bytes "."), .dec, .lit (bytes "."), .dec,
   .lit (bytes ":"), .dec,
   .lit (bytes ("/</URLBase><device>" ++
     "<deviceType>urn:schemas-upnp-org:device:Basic:1</deviceType>" ++
     "<friendlyName>Philips hue (")), .dec,
   .lit (bytes "."), .dec, .lit (bytes "."), .dec, .lit (bytes "."), .dec,
   .lit (bytes ":"), .dec,
   .lit (bytes (")</friendlyName><manufacturer>Royal Philips Electronics</manufacturer>" ++
     "<manufacturerURL>http://www.philips.com</manufacturerURL>" ++
     "<modelDescription>Philips hue Personal Wireless Lighting</modelDescription>" ++
     "<modelName>Philips hue bridge 2012</modelName>" ++
     "<modelNumber>929000226503</modelNumber>" ++
     "<modelURL>http://www.meethue.com</modelURL><serialNumber>")), .str,
   .lit (bytes "</serialNumber><UDN>uuid:2f402f80-da50-11e1-9b23-"), .str,
   .lit (bytes "</UDN><presentationURL>index.html</presentationURL></device></root>")]

def FAUXMO_UDP_RESPONSE_TEMPLATE : List Piece :=
  [.lit (bytes ("HTTP/1.1 200 OK\r\nEXT:\r\nCACHE-CONTROL: max-age=100\r\n" ++
     "LOCATION: http://")), .dec,
   .lit (bytes "."), .dec, .lit (bytes "."), .dec, .lit (bytes "."), .dec,
   .lit (bytes ":"), .dec,
   .lit (bytes ("/description.xml\r\nSERVER: FreeRTOS/6.0.5, UPnP/1.0, IpBridge/1.17.0\r\n" ++
     "hue-bridgeid: ")), .str,
   .lit (bytes ("\r\nST: urn:schemas-upnp-org:device:basic:1\r\n" ++
     "USN: uuid:2f402f80-da50-11e1-9b23-")), .str,
   .lit (bytes "::upnp:rootdevice\r\n\r\n")]

end FauxmoLinux
